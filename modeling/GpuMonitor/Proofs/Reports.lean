import GpuMonitor.Proofs.Asking
import GpuMonitor.Proofs.Lifetime

/-!
# Failing calls and their reports

A call into the metrics library that does not succeed is reported once: opening and activating
by the failure that is given back, the calls that a session can do without by a warning.

* `Call.failure?`, `Call.warning?`: the report that a call asks for.
* `Trace.failures`, `Trace.owed`: the reports that the calls of a trace ask for.
  `Trace.warnings`, `Trace.errors`: the reports that are found in it.
* `Told failures t`: what is owed in `t` is found in it, and `failures` is left to be given back.
  It is got from the lifecycle of a trace and its records (`told_of_service`, `told_of_warning`).
-/

namespace GpuMonitor

open Vendor

/-! ## What a call asks for -/

namespace Vendor.Call

/-- The failure of a call that hands out an object, unless it does. -/
def handing (what : String) : CompletionCode → Bool → Option Failure
  | .ok, true => none
  | .ok, false => some (.vendorCall what .errorGeneral)
  | code, _ => some (.vendorCall what code)

/-- The failure that a call has to be answered with, if it fails. -/
def failure? : Call → Option Failure
  | openAdapters code given => handing "open adapter group" code given
  | openDevice _ code given => handing "open metrics device" code given
  | activate _ _ code =>
    if code.isAccepted then none else some (.vendorCall "activate metric set" code)
  | _ => none

/-- The text of a warning about a call, unless its code is `ok`. -/
def unlessOk (what : String) (code : CompletionCode) : Option String :=
  if code.isOk then none else some (what ++ code.name)

/-- How the warnings about calls begin. -/
def warnings : List String :=
  ["GetGpuCpuTimestamps failed: ", "Failed to deactivate metric set: ",
    "Failed to close metrics device: ", "Failed to close adapter group: "]

/-- The warning that a call asks for, if it fails. -/
def warning? : Call → Option String
  | readClocks _ code => unlessOk "GetGpuCpuTimestamps failed: " code
  | deactivate _ _ code => unlessOk "Failed to deactivate metric set: " code
  | closeDevice _ code => unlessOk "Failed to close metrics device: " code
  | closeAdapters code => unlessOk "Failed to close adapter group: " code
  | _ => none

end Vendor.Call

namespace Trace

/-- The failures that the calls of a trace have to be answered with, in order. -/
def failures (t : Trace) : List Failure := t.calls.filterMap Call.failure?

/-- The warnings that the calls of a trace ask for, in order. -/
def owed (t : Trace) : List String := t.calls.filterMap Call.warning?

/-- How a warning begins about a library that cannot be unloaded. -/
def unloadFailing : String := "Failed to unload "

/-- The text of a warning is about no code of a call: about a search that finds nothing, or about
a library that cannot be unloaded. -/
def Codeless (text : String) : Prop :=
  text ∈ nothingFound ∨ unloadFailing.toList <+: text.toList

instance (text : String) : Decidable (Codeless text) :=
  inferInstanceAs (Decidable (text ∈ nothingFound ∨ unloadFailing.toList <+: text.toList))

/-- The warnings of a trace, but for those that are about no code of a call. -/
def warnings (t : Trace) : List String :=
  t.logs.filterMap fun
    | (.warn, text) => if Codeless text then none else some text
    | _ => none

/-- The errors of a trace. -/
def errors (t : Trace) : List String :=
  t.logs.filterMap fun
    | (.error, text) => some text
    | _ => none

theorem logs_append (t u : Trace) : logs (t ++ u) = t.logs ++ u.logs := List.filterMap_append ..

end Trace

/-- What is owed in a trace is found in it, no error is, and some failures are left to be given
back. -/
structure Told (failures : List Failure) (t : Trace) : Prop where
  warned : t.warnings = t.owed
  failing : t.failures = failures
  calm : t.errors = []

theorem Told.nil : Told [] [] := ⟨rfl, rfl, rfl⟩

theorem Told.append {fs gs : List Failure} {t u : Trace} (h : Told fs t) (h' : Told gs u) :
    Told (fs ++ gs) (t ++ u) where
  warned := by
    have hleft := h.warned
    have hright := h'.warned
    simp only [Trace.warnings, Trace.owed] at hleft hright ⊢
    rw [Trace.logs_append, Trace.calls_append, List.filterMap_append, List.filterMap_append, hleft,
      hright]
  failing := by
    rw [← h.failing, ← h'.failing]
    simp [Trace.failures, Trace.calls_append]
  calm := by
    have hleft := h.calm
    have hright := h'.calm
    simp only [Trace.errors] at hleft hright ⊢
    rw [Trace.logs_append, List.filterMap_append, hleft, hright]
    rfl

/-- A trace of which nothing has to be given back, before another one. -/
theorem Told.after {fs : List Failure} {t u : Trace} (h : Told [] t) (h' : Told fs u) :
    Told fs (t ++ u) := h.append h'

/-! ## Traces of a library -/

theorem told_of_codeless {text : String} (h : Trace.Codeless text) :
    Told [] [.log .warn text] := by
  have hnone : Trace.warnings [.log .warn text] = [] := List.filterMap_cons_none (if_pos h)
  exact ⟨hnone, rfl, rfl⟩

theorem told_remark {level : Level} {text : String} (h : Remark level text) :
    Told [] [.log level text] := by
  cases h with
  | info => exact ⟨rfl, rfl, rfl⟩
  | debug => exact ⟨rfl, rfl, rfl⟩
  | nothing _ h => exact told_of_codeless (.inl h)

/-- Lookups and readings leave nothing to report. -/
theorem told_of_look {t : Trace} (h : ∀ e ∈ t, e.isLook = true) : Told [] t := by
  induction t with
  | nil => exact .nil
  | cons e t ih =>
    have hfirst : Told [] [e] := by
      have he := h e List.mem_cons_self
      -- neither a lookup nor a reading is a record, and neither asks for a report
      unfold Event.isLook at he
      split at he
      · exact ⟨rfl, rfl, rfl⟩
      · exact ⟨rfl, rfl, rfl⟩
      · cases he
    exact hfirst.after (ih fun e he => h e (List.mem_cons_of_mem _ he))

/-- What the calls of a trace ask for is asked for by those of the lifecycle. -/
theorem filterMap_calls_lifecycle {β : Type} {ask : Call → Option β}
    (hask : ∀ call, call.text? = none → ask call = none) (t : Trace) :
    t.lifecycle.calls.filterMap ask = t.calls.filterMap ask := by
  induction t with
  | nil => rfl
  | cons e t ih =>
    have hcons (u : Trace) : Trace.calls (e :: u) = e.call?.toList ++ u.calls := by
      cases he : e.call? <;> simp [Trace.calls, he]
    -- an event that is left out is no call, or a call that asks for nothing
    by_cases h : e.isLifecycle = true
    · rw [Trace.lifecycle, List.filter_cons_of_pos h, hcons, hcons, List.filterMap_append,
        List.filterMap_append, ← ih]
      rfl
    · have hnone : e.call?.toList.filterMap ask = [] := by
        cases e with
        | vendor call =>
          have hcall : call.text? = none := by simpa [Event.isLifecycle] using h
          simp [Event.call?, hask call hcall]
        | _ => rfl
      rw [Trace.lifecycle, List.filter_cons_of_neg h, hcons, List.filterMap_append, hnone, ← ih]
      rfl

theorem failures_of_lifecycle {t u : Trace} (h : t.lifecycle = u) : t.failures = u.failures := by
  have hask : ∀ call : Call, call.text? = none → call.failure? = none := by
    intro call hcall
    cases call <;> first | rfl | cases hcall
  rw [← h]
  exact (filterMap_calls_lifecycle hask t).symm

theorem owed_of_lifecycle {t u : Trace} (h : t.lifecycle = u) : t.owed = u.owed := by
  have hask : ∀ call : Call, call.text? = none → call.warning? = none := by
    intro call hcall
    cases call <;> first | rfl | cases hcall
  rw [← h]
  exact (filterMap_calls_lifecycle hask t).symm

theorem logs_of_service {t : Trace} (h : ∀ e ∈ t, e.isService = true) : t.logs = [] := by
  refine List.filterMap_eq_nil_iff.2 fun e he => ?_
  have hs := h e he
  cases e with
  | log level text => cases hs
  | _ => rfl

/-- A service of the library is told of if its call asks for no warning. -/
theorem told_of_service {t : Trace} {call : Call} (hs : ∀ e ∈ t, e.isService = true)
    (hl : t.lifecycle = [.vendor call]) (hw : call.warning? = none) :
    Told call.failure?.toList t where
  warned := by
    rw [owed_of_lifecycle hl, Trace.warnings, logs_of_service hs]
    simp [Trace.owed, Trace.calls, Event.call?, hw]
  failing := by
    rw [failures_of_lifecycle hl]
    cases h : call.failure? <;> simp [Trace.failures, Trace.calls, Event.call?, h]
  calm := by rw [Trace.errors, logs_of_service hs, List.filterMap_nil]

/-- No warning about a call is one about a search. -/
theorem not_nothingFound {what : String} (hwhat : what ∈ Call.warnings) (code : CompletionCode) :
    what ++ code.name ∉ nothingFound := by
  simp only [Call.warnings, List.mem_cons, List.not_mem_nil, or_false] at hwhat
  rcases hwhat with rfl | rfl | rfl | rfl <;> cases code <;> rw [CompletionCode.name] <;> decide

/-- A warning about a call is about its code. -/
theorem not_codeless {what : String} (hwhat : what ∈ Call.warnings) (code : CompletionCode) :
    ¬ Trace.Codeless (what ++ code.name) := by
  rintro (hnothing | hunload)
  · exact not_nothingFound hwhat code hnothing
  · -- the warnings differ from one about the unloading before the code comes
    have hbegins : ∀ what ∈ Call.warnings,
        Trace.unloadFailing.toList.length ≤ what.toList.length ∧
          ¬ Trace.unloadFailing.toList <+: what.toList := by decide
    obtain ⟨hle, hnot⟩ := hbegins what hwhat
    rw [String.toList_append] at hunload
    exact hnot (List.prefix_of_prefix_length_le hunload (List.prefix_append _ _) hle)

/-- A service that a session can do without is told of by a warning, if it fails. -/
theorem told_of_warning {t u : Trace} {call : Call} {what : String} {code : CompletionCode}
    (hs : ∀ e ∈ t, e.isService = true) (hl : t.lifecycle = [.vendor call])
    (hf : call.failure? = none) (hw : call.warning? = Call.unlessOk what code)
    (hu : u = if code.isOk then [] else [.log .warn (what ++ code.name)])
    (hwhat : what ∈ Call.warnings) : Told [] (t ++ u) := by
  have hcalls : u.calls = [] := by
    rw [hu]
    cases code.isOk <;> rfl
  have hlogs : u.logs = if code.isOk then [] else [(.warn, what ++ code.name)] := by
    rw [hu]
    cases code.isOk <;> rfl
  have howed : t.calls.filterMap Call.warning? = _ := owed_of_lifecycle hl
  have hfailures : t.calls.filterMap Call.failure? = _ := failures_of_lifecycle hl
  refine ⟨?_, ?_, ?_⟩
  · -- the one warning that there is, against the one that is owed
    rw [Trace.warnings, Trace.logs_append, logs_of_service hs, hlogs, Trace.owed,
      Trace.calls_append, hcalls, List.append_nil, List.nil_append, howed]
    cases hok : code.isOk <;>
      simp [Trace.owed, Trace.calls, Event.call?, hw, Call.unlessOk, hok, not_codeless hwhat]
  · rw [Trace.failures, Trace.calls_append, hcalls, List.append_nil, hfailures]
    simp [Trace.failures, Trace.calls, Event.call?, hf]
  · rw [Trace.errors, Trace.logs_append, logs_of_service hs, hlogs]
    cases code.isOk <;> rfl

/-- That a library cannot be unloaded is told, and nothing is left to be given back. -/
theorem Library.told_unloading (lib : Library) : Told [] lib.unloading := by
  have hunload : Told [] [.vendor .unload] := ⟨rfl, rfl, rfl⟩
  unfold unloading unloadWarning?
  cases lib.vendor.script.unloadFailure with
  | none => exact hunload
  | some reason =>
    have hcodeless : Trace.Codeless ("Failed to unload " ++ lib.path.text ++ ": " ++ reason) := by
      refine .inr ⟨(lib.path.text ++ (": " ++ reason)).toList, ?_⟩
      rw [Trace.unloadFailing, ← String.toList_append]
      simp only [String.append_assoc]
    exact hunload.after (told_of_codeless hcodeless)

/-! ## Reading -/

/-- Reading leaves nothing to be given back. -/
theorem Library.reading_told : ReadingObeys fun (_ : Library) t (_ : Library) => Told [] t where
  composes := ⟨fun _ => .nil, fun h h' => h.after h'⟩
  logging _ _ _ h := told_remark h
  adapterGroup lib := told_of_look (using_readAdapterGroup lib).2
  adapter i lib := told_of_look (using_readAdapter i lib).2
  device lib := told_of_look (using_readDevice lib).2
  concurrentGroup g lib := told_of_look (using_readConcurrentGroup g lib).2
  metricSet id lib := told_of_look (using_readMetricSet id lib).2
  metric id i lib := told_of_look (using_readMetric id i lib).2

end GpuMonitor
