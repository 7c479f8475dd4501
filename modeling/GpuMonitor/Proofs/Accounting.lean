import GpuMonitor.Proofs.Agreement
import GpuMonitor.Proofs.LeftActive
import GpuMonitor.Proofs.Reporting

/-!
# An account of every failing call

Over the whole life of a session, and whatever the metrics library answers, a call that does not
succeed is reported once, by the operation that has made it; and nothing is reported that has
not failed.

* `Accounts`: a result accounts for the failing calls of a trace.
* `Reported`: the answer of an operation and its trace account for its failing calls. The
  monitoring loop gives back no failure, and has a record of it at the end of its trace.
* `reported_perform`: every operation, in both stages of a session.

Main result:

* `failing_calls_reported`: from the loading of a library to the end of the session.
-/

namespace GpuMonitor

open Vendor

namespace Session

variable {a : Nat} {s : Session Library}

/-! ## Accounts -/

/-- What a sample fails with after a release, when no call is made any more. -/
def sampledLate : Failure := .vendorCall "activate metric set" .errorInvalidParameter

/-- The result gives back what the calls of the trace ask for, and all else is warned about. Only
after a release a failure of a call may be given back that was not made. -/
def Accounts {β : Type} (released : Bool) (result : Except Failure β) (t : Trace) : Prop :=
  Told (givenBack result) t ∨ released = true ∧ result = .error sampledLate ∧ t = []

/-- The reply of an operation and its trace account for its failing calls. A loop has at its end
what its last sample has come to, and a summary of it tells whether that is a failure. -/
def Reported (released : Bool) (t : Trace) : Reply → Prop
  | .catalog result => Told (givenBack result) t
  | .selected result => Told (givenBack result) t
  | .sample result => Accounts released result t
  | .ran answer _ => ∃ result before, t = before ++ Monitor.report result ∧
      Accounts released result before ∧
      ∀ summary, answer = .ok summary → (summary.reason = .sampleFailed ↔ ∃ f, result = .error f)
  | _ => Told [] t

/-! ## The operations -/

theorem givenBack_catalog (lib : Library) : givenBack (GpuMonitor.catalog lib).value.1 = [] := by
  cases h : (GpuMonitor.catalog lib).value.1 with
  | ok groups => rfl
  | error f =>
    obtain rfl := catalog_error h
    rfl

theorem givenBack_select (s : Session Library) : givenBack (select s).value.1 = [] := by
  obtain ⟨hresult, -, -⟩ := select_spec s
  rw [hresult]
  cases hcount : (concurrentGroupCount s.gateway).value.1 with
  | error f =>
    obtain rfl := concurrentGroupCount_error hcount
    simp [selectSet, hcount, Except.map, givenBack, Failure.ofCall]
  | ok count =>
    cases hfound : (firstOf Selection.considerGroup 0 count
        (concurrentGroupCount s.gateway).value.2).value.1 <;>
      simp [selectSet, hcount, hfound, Except.map, givenBack, Failure.ofCall]

theorem accounts_late {β : Type} {f : Failure} (h : f = .noMetricSetSelected ∨ f = sampledLate) :
    Accounts true (.error f : Except Failure β) [] := by
  rcases h with rfl | rfl
  · exact .inl .nil
  · exact .inr ⟨rfl, rfl, rfl⟩

/-! ### The monitoring loop -/

/-- Samples in a row account for their failing calls one by one. -/
theorem told_asking (h : InUse a s) (n : Nat) :
    Told ((Monitor.asking sample n s).value.1.flatMap givenBack) (Monitor.asking sample n s).trace ∧
      InUse a (Monitor.asking sample n s).value.2 := by
  induction n with
  | zero => exact ⟨.nil, h⟩
  | succ n ih =>
    obtain ⟨htold, hinUse⟩ := ih
    obtain ⟨-, -, hstill, -⟩ := sample_inUse hinUse
    rw [Monitor.asking_succ]
    refine ⟨?_, hstill⟩
    rw [List.flatMap_append, List.flatMap_singleton]
    exact htold.append (told_sample hinUse)

/-- A loop on a session in use leaves an account of its last sample, which all that was given
back is of. -/
theorem accounts_run (h : InUse a s) (mode : Mode) (interval : Duration) (bound : Nat)
    (bench : Monitor.Bench) :
    ∃ result before,
      (bench.run sample mode interval bound s).trace = before ++ Monitor.report result ∧
      Told (givenBack result) before ∧
      ∀ summary, (bench.run sample mode interval bound s).value.1.1 = .ok summary →
        (summary.reason = .sampleFailed ↔ ∃ f, result = .error f) := by
  obtain ⟨n, -, htrace, hok, htells⟩ := Monitor.Bench.run_asks sample mode interval bound bench s
  obtain ⟨htold, -⟩ := told_asking h n
  rw [htrace]
  generalize (Monitor.asking sample n s).value.1 = results at hok htold htells ⊢
  -- nothing is given back by the samples before the last one, and nothing is logged of them
  rcases List.eq_nil_or_concat results with rfl | ⟨earlier, last, rfl⟩
  · refine ⟨.ok {}, _, rfl, htold, fun summary hsummary => ?_⟩
    rw [htells summary (congrArg some hsummary)]
    simp
  · rw [List.concat_eq_append] at hok htold htells ⊢
    rw [List.dropLast_concat] at hok
    have hgiven : earlier.flatMap givenBack = [] := by
      rw [List.flatMap_eq_nil_iff]
      intro result hmem
      obtain ⟨u, rfl⟩ := hok result hmem
      rfl
    have hlogged : earlier.flatMap Monitor.report = [] := by
      rw [List.flatMap_eq_nil_iff]
      intro result hmem
      obtain ⟨u, rfl⟩ := hok result hmem
      rfl
    refine ⟨last, (Monitor.asking sample n s).trace, ?_, ?_, fun summary hsummary => ?_⟩
    · rw [List.flatMap_append, hlogged, List.flatMap_singleton, List.nil_append]
    · rw [List.flatMap_append, hgiven, List.flatMap_singleton] at htold
      exact htold
    · rw [htells summary (congrArg some hsummary)]
      refine ⟨fun ⟨f, hf⟩ => ?_, fun ⟨f, hf⟩ => ⟨f, by simp [hf]⟩⟩
      rcases List.mem_append.1 hf with hf | hf
      · obtain ⟨u, hu⟩ := hok _ hf
        cases hu
      · exact ⟨f, (List.mem_singleton.1 hf).symm⟩

/-- A loop on a session that is released asks once at most. -/
theorem accounts_run_late (h : Over s) (mode : Mode) (interval : Duration) (bound : Nat)
    (bench : Monitor.Bench) :
    ∃ result : Except Failure Utilization,
      (bench.run sample mode interval bound s).trace = Monitor.report result ∧
      Accounts true result [] ∧
      ∀ summary, (bench.run sample mode interval bound s).value.1.1 = .ok summary →
        (summary.reason = .sampleFailed ↔ ∃ f, result = .error f) := by
  obtain ⟨n, -, htrace, hok, htells⟩ := Monitor.Bench.run_asks sample mode interval bound bench s
  obtain ⟨f, hsample, hf⟩ := sample_over h
  cases n with
  | zero =>
    refine ⟨.ok {}, htrace, .inl .nil, fun summary hsummary => ?_⟩
    rw [htells summary (congrArg some hsummary)]
    simp [Monitor.asking]
  | succ n =>
    rw [Monitor.asking_cons, hsample] at hok htrace htells
    cases n with
    | zero =>
      refine ⟨.error f, ?_, accounts_late hf, fun summary hsummary => ?_⟩
      · rw [htrace]
        simp [Monitor.asking]
      · rw [htells summary (congrArg some hsummary)]
        simp [Monitor.asking]
    | succ n =>
      -- a failure among the results that others follow would have ended the loop
      rw [Monitor.asking_cons] at hok
      obtain ⟨u, hu⟩ := hok (.error f) List.mem_cons_self
      cases hu

/-! ### Every operation -/

/-- An operation accounts for its failing calls, whichever it is and whether the session is
released or not. -/
theorem reported_perform (h : InUse a s ∨ Over s) (op : Operation) :
    Reported s.released (op.perform s).trace (op.perform s).value.1 := by
  cases op with
  | adapters => exact obeys_listAdapters Library.reading_told s.gateway
  | adapter => exact .nil
  | selection => exact .nil
  | deviceName => exact Library.reading_told.device s.gateway
  | catalog =>
    show Told (givenBack (GpuMonitor.catalog s.gateway).value.1) _
    rw [givenBack_catalog]
    exact obeys_catalog Library.reading_told s.gateway
  | select =>
    obtain ⟨-, -, htrace⟩ := select_spec s
    show Told (givenBack (select s).value.1) (select s).trace
    rw [givenBack_select, htrace]
    exact obeys_selectSet Library.reading_told s.gateway
  | sample =>
    show Accounts s.released (sample s).value.1 (sample s).trace
    rcases h with h | h
    · exact .inl (told_sample h)
    · obtain ⟨f, hsample, hf⟩ := sample_over h
      rw [h.released, hsample]
      exact accounts_late hf
  | setWindow length => exact .nil
  | run mode interval bound bench =>
    have htrace : ((Operation.run mode interval bound bench).perform s).trace =
        (bench.run sample mode interval bound s).trace := by simp [Operation.perform]
    rw [htrace]
    rcases h with h | h
    · obtain ⟨result, before, hrun, htold, htells⟩ := accounts_run h mode interval bound bench
      exact ⟨result, before, hrun, .inl htold, htells⟩
    · obtain ⟨result, hrun, hlate, htells⟩ := accounts_run_late h mode interval bound bench
      rw [h.released]
      exact ⟨result, [], hrun, hlate, htells⟩
  | release =>
    have htrace : (Operation.release.perform s).trace = (release s).trace := by
      simp [Operation.perform]
    show Told [] (Operation.release.perform s).trace
    rw [htrace]
    rcases h with h | h
    · exact told_release h.ready
    · rw [release_of_released h.released]
      exact .nil

/-! ## From the loading to the end -/

theorem told_load (loader : Loader) (candidates : List Path) :
    Told (givenBack (Library.load loader candidates).value)
      (Library.load loader candidates).trace := by
  -- for any candidates tried before, which only the failure names
  suffices h : ∀ tried rest, Told (givenBack (Library.loadAfter loader tried rest).value)
      (Library.loadAfter loader tried rest).trace from h [] candidates
  intro tried rest
  induction rest generalizing tried with
  | nil => exact .nil
  | cons path rest ih =>
    simp only [Library.loadAfter]
    split
    · rw [Traced.value_bind, Traced.trace_bind]
      exact (told_remark (.debug _)).after (ih _)
    · rw [Traced.value_bind, Traced.trace_bind]
      exact (told_remark (.debug _)).after .nil
    · rw [Traced.value_bind, Traced.trace_bind]
      exact (told_remark (.debug _)).after .nil

theorem told_launch (loader : Loader) (candidates : List Path) :
    Told (givenBack (launch loader candidates).value) (launch loader candidates).trace := by
  have hload := told_load loader candidates
  cases h : (Library.load loader candidates).value with
  | error f =>
    obtain ⟨hvalue, htrace⟩ := launch_of_error h
    rw [h] at hload
    rw [hvalue, htrace]
    exact hload
  | ok lib =>
    obtain ⟨hvalue, htrace⟩ := launch_of_ok h
    obtain ⟨path, script, rfl⟩ := Library.loaded_of_load h
    rw [h] at hload
    rw [hvalue, htrace]
    exact hload.after (told_start rfl rfl rfl)

/--
**A failing call is reported once, and nothing else is reported.** Over every loader, all
candidates, and every history of operations, for the launch of the session, for each operation
at its place in the history, and for the end:

* a failure of opening or activating is given back by what has made the call, as `Told` says;
  within a loop it is the last sample's, whose record ends the trace of the loop;
* a failure of reading the clocks, deactivating or closing has one warning with the name of its
  code, and these stand in the order of the calls;
* no failure of a call and no such warning is found besides, but that a sample after the release
  fails with `sampledLate` without a call.
-/
theorem failing_calls_reported (loader : Loader) (candidates : List Path) :
    Told (givenBack (launch loader candidates).value) (launch loader candidates).trace ∧
    ∀ s, (launch loader candidates).value = .ok s → ∀ ops : List Operation,
      let s' := (performAll ops s).value.2
      (∀ op : Operation, Reported s'.released (op.perform s').trace (op.perform s').value.1) ∧
      Told [] (finish s').trace := by
  refine ⟨told_launch loader candidates, fun s hs ops => ?_⟩
  obtain ⟨a, hstage⟩ := stage_of_launch hs ops
  refine ⟨fun op => reported_perform hstage op, ?_⟩
  rcases hstage with h | h
  · exact told_finish h.ready
  · rw [(finish_over h).2]
    exact .nil

theorem accounts_of_reported {released : Bool}
    (h : Reported released (Operation.sample.perform s).trace (Operation.sample.perform s).value.1) :
    Accounts released (sample s).value.1 (sample s).trace := h

/-- A sample of the first of two sets, whose deactivation fails: the sample is taken, and there is
one warning. -/
theorem failing_calls_reported_twoSets :
    let loader : Loader := fun _ => .opens Library.twoSets
    let s := (performAll [.select] onTwoSets).value.2
    (launch loader [⟨[]⟩]).value = .ok onTwoSets ∧
    Told (givenBack (sample s).value.1) (sample s).trace ∧
    givenBack (sample s).value.1 = [] ∧
    (sample s).trace.warnings = ["Failed to deactivate metric set: ERROR_GENERAL"] := by
  intro loader
  have hlaunch : (launch loader [⟨[]⟩]).value = .ok onTwoSets := start_twoSets
  obtain ⟨hall, -⟩ := (failing_calls_reported loader [⟨[]⟩]).2 onTwoSets hlaunch [.select]
  -- the session is named, so that its history is run by the kernel alone
  generalize hs : (performAll [.select] onTwoSets).value.2 = s at hall ⊢
  have hreported := accounts_of_reported (hall .sample)
  have hwarnings : (sample s).trace.warnings =
      ["Failed to deactivate metric set: ERROR_GENERAL"] := by
    rw [← hs]
    decide +kernel
  have hgiven : givenBack (sample s).value.1 = [] := by
    rw [← hs]
    decide +kernel
  rcases hreported with htold | ⟨hreleased, -⟩
  · exact ⟨hlaunch, htold, hgiven, hwarnings⟩
  · rw [← hs] at hreleased
    exact absurd hreleased (by decide +kernel)

end Session
end GpuMonitor
