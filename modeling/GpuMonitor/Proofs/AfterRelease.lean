import GpuMonitor.Proofs.Accounting
import GpuMonitor.Proofs.Ending
import GpuMonitor.Proofs.Operating

/-!
# A session after its release

Only the release itself looks whether a session was released. That every other operation does
no harm afterwards comes from its library, which is gone.

* `Operation.ComesTo`: what an operation comes to once the session is over. Every operation
  does (`comesTo_perform`), and leaves the session as it is but for its window
  (`performAll_over`).
* `kept_release`: what a release leaves of the session.
* `selection_isSome_iff`: a set is selected if and only if a search has found one.

Main result:

* `inert_after_release`: after a release there is no call any more, and nothing changes.
-/

namespace GpuMonitor

open Vendor Monitor

/-! ## A loop whose first sample fails -/

namespace Monitor.Bench

variable {σ : Type} {sample : Action σ (Except Failure Utilization)}

/-- A loop whose first sample fails ends with it, unless the report cannot be written. -/
theorem summary_of_failing {s : σ} {f : Failure} (h : (sample s).value.1 = .error f)
    (mode : Mode) (interval : Duration) (bound : Nat) (b : Bench) {summary : Summary}
    (hrun : (b.run sample mode interval bound s).value.1.1 = .ok summary) :
    summary = ⟨0, .sampleFailed⟩ := by
  cases bound with
  | zero => cases hrun
  | succ n =>
    have hs : (setting sample).sample (s, b) =
        { value := (.error f, ((sample s).value.2, b)), trace := (sample s).trace } := by
      apply Traced.ext'
      · simp [setting, h]
      · rfl
    obtain ⟨x, p, t, hcomplain⟩ : ∃ x p t,
        ((setting sample).complain (n + 1) f).run ((sample s).value.2, b) =
          { value := (x, p), trace := t } := ⟨_, _, _, rfl⟩
    have hround : (setting sample).rounds mode interval (n + 1) 0 (s, b) =
        { value := (some (x.map fun _ => ⟨0, .sampleFailed⟩), p)
          trace := (sample s).trace ++ t } := Setting.rounds_of_error hs hcomplain
    rw [run_eq_firstOf, firstOf_succ] at hrun
    simp only [Action.value_bind, hround] at hrun
    -- the first round has ended the loop, with the summary or with what became of the report
    cases x with
    | error halt => cases hrun
    | ok u => exact (Except.ok.inj hrun).symm

/-- With a writer that never fails, such a loop shows the report and nothing else. -/
theorem shows_of_failing {s : σ} {f : Failure} (h : (sample s).value.1 = .error f)
    (mode : Mode) (interval : Duration) {b : Bench} (hb : b.writer.Unfailing) :
    b.Shows sample mode interval s (.ended sample interval s 1 0 ⟨0, .sampleFailed⟩) := by
  have hfirst : ∀ k < 0, ∃ u, resultAt sample s k = .ok u :=
    fun k hk => absurd hk (Nat.not_lt_zero k)
  refine shows_of_verdict sample mode interval hb.toWilling (n := 0)
    (fun k hk => absurd hk (Nat.not_lt_zero k)) ?_
  rw [verdict_of_unfailing sample hb mode interval hfirst]
  have hresult : resultAt sample s 0 = .error f := h
  rw [hresult]

end Monitor.Bench

namespace Session

/-! ## What an operation comes to -/

/-- Why a sample fails once the session is over. -/
def sampleFailure {γ : Type} (s : Session γ) : Failure :=
  if s.selection.isSome then .vendorCall "activate metric set" .errorInvalidParameter
  else .noMetricSetSelected

/-- What an operation comes to once the session is over: an answer without a call, from what
the session still knows. -/
def Operation.ComesTo (s : Session Library) (r : Traced (Reply × Session Library)) :
    Operation → Prop
  | .adapters => r = { value := (.adapters [], s) }
  | .adapter => r = { value := (.adapter s.adapter, s) }
  | .selection => r = { value := (.selection s.selection, s) }
  | .deviceName => r = { value := (.deviceName none, s) }
  | .catalog => r = { value := (.catalog (.error (.missingParams "metrics device")), s) }
  | .select => r = { value := (.selected (.error (.missingParams "metrics device")), s) }
  | .sample => r = { value := (.sample (.error s.sampleFailure), s) }
  | .setWindow length => r = { value := (.done, { s with window := length }) }
  | .run _ _ _ _ =>
    r.value.2 = s ∧ r.trace.calls = [] ∧ ∃ result bench, r.value.1 = .ran result bench ∧
      ∀ summary, result = .ok summary → summary = ⟨0, .sampleFailed⟩
  | .release => r = { value := (.done, s) }

section
variable {s : Session Library} (h : Over s)
include h

theorem over_window (length : Duration) : Over { s with window := length } := ⟨h.released, h.gone⟩

theorem sample_of_over : sample s = { value := (.error s.sampleFailure, s) } := by
  cases hsel : s.selection with
  | none =>
    rw [sample_of_none hsel]
    simp [sampleFailure, hsel]
  | some selection =>
    -- the set cannot be reached without a device, so it cannot be activated
    obtain ⟨f, hsample, -⟩ := sample_over h
    have hactivate :
        (Library.activate selection.id s.gateway).value.1 = .errorInvalidParameter := by
      simp [Library.activate, Library.onSet, Library.onDevice, h.gone.device]
    obtain ⟨hvalue, -⟩ := sample_of_refused hsel (by rw [hactivate]; rfl)
    rw [hactivate, hsample] at hvalue
    rw [hsample, (Prod.mk.inj hvalue).1]
    simp [sampleFailure, hsel]

/-- Reading is answered with nothing once the library is gone, and a session does not change. -/
theorem readDevice_of_over : Gateway.readDevice s.gateway = { value := (none, s.gateway) } := by
  show Library.readDevice s.gateway = _
  apply Traced.ext' <;> simp [Library.readDevice, Library.onDevice, h.gone.device]

theorem concurrentGroupCount_of_over :
    concurrentGroupCount s.gateway =
      { value := (.error (.missingParams "metrics device"), s.gateway) } := by
  apply Traced.ext' <;> simp [concurrentGroupCount, readDevice_of_over h]

theorem listAdapters_of_over : listAdapters s.gateway = { value := ([], s.gateway) } := by
  have hread : Gateway.readAdapterGroup s.gateway = { value := (none, s.gateway) } := by
    show Library.readAdapterGroup s.gateway = _
    apply Traced.ext' <;> simp [Library.readAdapterGroup, Library.onGroup, h.gone.groupOpen]
  apply Traced.ext' <;> simp [listAdapters, hread, collect_zero]

omit h in
/-- A loop over a session that is over changes nothing and makes no call. -/
theorem obeys_over_run (mode : Mode) (interval : Duration) (bound : Nat) (bench : Bench) :
    Obeys (fun (s : Session Library) t s' => Over s → s' = s ∧ t.calls = [])
      (bench.run Session.sample mode interval bound) := by
  have hc : Composes fun (s : Session Library) t s' => Over s → s' = s ∧ t.calls = [] := by
    refine ⟨fun s _ => ⟨rfl, rfl⟩, fun h h' hs => ?_⟩
    obtain ⟨rfl, hcalls⟩ := h hs
    obtain ⟨hstate, hcalls'⟩ := h' hs
    exact ⟨hstate, by rw [Trace.calls_append, hcalls, hcalls']; rfl⟩
  refine Bench.obeys_run hc (fun s _ _ _ => ⟨rfl, rfl⟩) (fun s hs => ?_) mode interval bound bench
  rw [sample_of_over hs]
  exact ⟨rfl, rfl⟩

/-- Whatever the operation is, it is answered without a call, and the session stays. -/
theorem comesTo_perform (op : Operation) : op.ComesTo s (op.perform s) := by
  have hcount := concurrentGroupCount_of_over h
  cases op with
  | adapters =>
    have hlist := listAdapters_of_over h
    apply Traced.ext' <;> simp [Operation.perform, adapters, onGateway, hlist]
  | adapter => apply Traced.ext' <;> simp [Operation.perform]
  | selection => apply Traced.ext' <;> simp [Operation.perform]
  | deviceName =>
    have hread := readDevice_of_over h
    apply Traced.ext' <;> simp [Operation.perform, deviceName, onGateway, hread]
  | catalog =>
    apply Traced.ext' <;>
      simp [Operation.perform, Session.catalog, onGateway, GpuMonitor.catalog, hcount]
  | select =>
    apply Traced.ext' <;> simp [Operation.perform, select, onGateway, selectSet, hcount]
  | sample =>
    have hsample := sample_of_over h
    apply Traced.ext' <;> simp [Operation.perform, hsample]
  | setWindow length => apply Traced.ext' <;> simp [Operation.perform]
  | run mode interval bound bench =>
    have hfail : (Session.sample s).value.1 = .error s.sampleFailure := by rw [sample_of_over h]
    obtain ⟨hstate, hcalls⟩ := obeys_over_run mode interval bound bench s h
    refine ⟨hstate, ?_, _, _, rfl, fun summary hsummary => ?_⟩
    · simpa [Operation.perform] using hcalls
    · exact Bench.summary_of_failing hfail mode interval bound bench hsummary
  | release =>
    have hrelease := release_of_released h.released
    apply Traced.ext' <;> simp [Operation.perform, hrelease]

end

/-! ## Histories -/

/-- The window after some operations: the last one that was set, if any. -/
def windowAfter (window : Duration) (ops : List Operation) : Duration :=
  ops.foldl (fun length op => match op with | .setWindow next => next | _ => length) window

theorem perform_over {s : Session Library} (h : Over s) (op : Operation) :
    (op.perform s).trace.calls = [] ∧
      (op.perform s).value.2 = { s with window := windowAfter s.window [op] } := by
  have hop := comesTo_perform h op
  cases op with
  | run mode interval bound bench => exact ⟨hop.2.1, hop.1⟩
  | _ =>
    rw [Operation.ComesTo] at hop
    rw [hop]
    exact ⟨rfl, rfl⟩

/-- Once a session is over a history makes no call, and changes nothing but the window. -/
theorem performAll_over {s : Session Library} (h : Over s) (ops : List Operation) :
    (performAll ops s).trace.calls = [] ∧
      (performAll ops s).value.2 = { s with window := windowAfter s.window ops } := by
  -- on the operations; a session with another window is over just as well
  induction ops generalizing s with
  | nil => exact ⟨rfl, rfl⟩
  | cons op rest ih =>
    obtain ⟨hcalls, hstate⟩ := perform_over h op
    have hnext : Over (op.perform s).value.2 := by
      rw [hstate]
      exact over_window h _
    obtain ⟨hcalls', hstate'⟩ := ih hnext
    have htrace : (performAll (op :: rest) s).trace =
        (op.perform s).trace ++ (performAll rest (op.perform s).value.2).trace := by
      simp [performAll]
    refine ⟨?_, ?_⟩
    · rw [htrace, Trace.calls_append, hcalls, hcalls']
      rfl
    · show (performAll rest (op.perform s).value.2).value.2 = _
      rw [hstate', hstate]
      rfl

/-! ## What a session still knows -/

section
variable {γ : Type} [Gateway γ]

/-- Calls, records and waits leave alone what a session knows. -/
theorem obeying_known : Obeying fun (s : Session γ) _ s' => known s' = known s where
  composes := composes_keeps known
  logging _ _ _ := rfl
  waiting _ _ := rfl
  request _ := by
    intro g s _
    rfl
  settling _ _ _ hk := hk

theorem keeps_release : Keeps known (release (γ := γ)) := obeys_release obeying_known

theorem keeps_sample : Keeps known (sample (γ := γ)) := obeys_sample obeying_known

theorem keeps_run (mode : Mode) (interval : Duration) (bound : Nat) (bench : Bench) :
    Keeps known (bench.run (sample (γ := γ)) mode interval bound) :=
  Bench.obeys_run (composes_keeps known) (fun _ _ _ => rfl) keeps_sample mode interval bound bench

/-- The reply tells of a metric set that was selected. -/
def Reply.selects : Reply → Bool
  | .selected (.ok _) => true
  | _ => false

/-- An operation selects a set if its reply tells so, and no operation gives a selection up. -/
theorem selection_perform (op : Operation) (s : Session γ) :
    (op.perform s).value.2.selection.isSome =
      (s.selection.isSome || (op.perform s).value.1.selects) := by
  have hselection {t u : Session γ} (h : known t = known u) :
      t.selection.isSome = u.selection.isSome := congrArg (fun k => k.2.1.isSome) h
  cases op with
  | select =>
    -- the selection and the reply are read off the same search
    obtain ⟨hvalue, hstate, -⟩ := select_spec s
    show (select s).value.2.selection.isSome =
      (s.selection.isSome || (Reply.selected (select s).value.1).selects)
    rw [hvalue, hstate]
    cases h : (selectSet s.gateway).value.1 <;>
      simp [Except.toOption, Except.map, Reply.selects]
  | sample =>
    show (sample s).value.2.selection.isSome = (s.selection.isSome || false)
    rw [hselection (keeps_sample s), Bool.or_false]
  | release =>
    show (release s).value.2.selection.isSome = (s.selection.isSome || false)
    rw [hselection (keeps_release s), Bool.or_false]
  | run mode interval bound bench =>
    show (bench.run Session.sample mode interval bound s).value.2.selection.isSome =
      (s.selection.isSome || false)
    rw [hselection (keeps_run mode interval bound bench s), Bool.or_false]
  | _ => exact (Bool.or_false _).symm

/-- A set is selected after a history if one was before, or if a reply tells so. -/
theorem selection_performAll (ops : List Operation) (s : Session γ) :
    (performAll ops s).value.2.selection.isSome =
      (s.selection.isSome || (performAll ops s).value.1.any Reply.selects) := by
  induction ops generalizing s with
  | nil => simp [performAll]
  | cons op rest ih =>
    simp only [performAll, Action.value_bind, Action.value_pure, List.any_cons]
    rw [ih, selection_perform, Bool.or_assoc]

/-- Starting selects nothing. -/
theorem keeps_openAll : Keeps selection (openAll (γ := γ)) := by
  have hc := composes_keeps (selection (γ := γ))
  refine obeys_bind hc (fun s => rfl) fun result => ?_
  split
  · exact obeys_pure hc _
  · refine obeys_bind hc (obeys_modify fun _ => rfl) fun _ => ?_
    refine obeys_bind hc (fun s => rfl) fun params => ?_
    split
    · exact obeys_pure hc _
    · refine obeys_bind hc (fun s => rfl) fun _ => ?_
      refine obeys_bind hc (fun s => rfl) fun list => ?_
      split
      · exact obeys_pure hc _
      · refine obeys_bind hc (fun s => rfl) fun _ => ?_
        refine obeys_bind hc (fun s => rfl) fun result => ?_
        split
        · exact obeys_pure hc _
        · refine obeys_bind hc (obeys_modify fun _ => rfl) fun _ => ?_
          exact obeys_bind hc (fun s => rfl) fun _ => obeys_pure hc _

end

theorem selection_of_launch {loader : Loader} {candidates : List Path} {s : Session Library}
    (h : (launch loader candidates).value = .ok s) : s.selection = none := by
  obtain ⟨lib, -, hstart⟩ := start_of_launch h
  have hkeep : (openAll { gateway := lib }).value.2.selection = none :=
    keeps_openAll { gateway := lib }
  rw [openAll_of_start hstart] at hkeep
  exact hkeep

/--
**A released session is inert.** From a launched session, after any operations, a release, and
any further operations:

* the release keeps the adapter, the selection and the window;
* none of the further operations makes a call, and nothing of the session is changed by them
  but the window, which is the last one set;
* each of them comes to what `Operation.ComesTo` says: there is no adapter to list and no name
  of a device, reading the device fails for its parameters, a sample fails because nothing is
  selected or else because it cannot be activated, a loop ends with its first sample, and a
  release does nothing; with a writer that never fails the loop shows its report;
* a set is selected if and only if a search has found one before the release;
* the end of the session does nothing.
-/
theorem inert_after_release {loader : Loader} {candidates : List Path} {launched : Session Library}
    (hlaunch : (launch loader candidates).value = .ok launched) (earlier later : List Operation) :
    let s := (performAll earlier launched).value.2
    let released := (release s).value.2
    let s' := (performAll later released).value.2
    (released.adapter = s.adapter ∧ released.selection = s.selection ∧
      released.window = s.window) ∧
    (performAll later released).trace.calls = [] ∧
    s' = { released with window := windowAfter released.window later } ∧
    (∀ op : Operation, op.ComesTo s' (op.perform s')) ∧
    (∀ mode interval (bench : Bench), bench.writer.Unfailing →
      bench.Shows sample mode interval s' (.ended sample interval s' 1 0 ⟨0, .sampleFailed⟩)) ∧
    s'.selection.isSome = (performAll earlier launched).value.1.any Reply.selects ∧
    finish s' = { value := ((), s') } := by
  intro s released s'
  -- the release ends what is in use, or comes after another one and changes nothing
  have hover : Over released := by
    obtain ⟨a, hs | hs⟩ := stage_of_launch hlaunch earlier
    · exact (release_inUse hs).2.2
    · show Over (release s).value.2
      rw [release_of_released hs.released]
      exact hs
  obtain ⟨hcalls, hstate⟩ := performAll_over hover later
  change s' = _ at hstate
  have hover' : Over s' := by
    rw [hstate]
    exact over_window hover _
  have hknown : known released = known s := keeps_release s
  have hselection : released.selection = s.selection := congrArg (fun k => k.2.1) hknown
  refine ⟨⟨congrArg Prod.fst hknown, hselection, congrArg (fun k => k.2.2) hknown⟩, hcalls, hstate,
    comesTo_perform hover', fun mode interval bench hb => ?_, ?_, ?_⟩
  · have hfail : (sample s').value.1 = .error s'.sampleFailure := by rw [sample_of_over hover']
    exact Bench.shows_of_failing hfail mode interval hb
  · -- a release keeps the selection, and nothing is selected after it
    have hkept : s'.selection = s.selection := by
      rw [hstate]
      exact hselection
    rw [hkept, selection_performAll, selection_of_launch hlaunch]
    rfl
  · obtain ⟨hend, htrace⟩ := finish_over hover'
    apply Traced.ext'
    · exact Prod.ext rfl hend
    · exact htrace

theorem value_sample_of_comesTo {s : Session Library}
    (h : Operation.ComesTo s (Operation.sample.perform s) .sample) :
    (sample s).value.1 = .error s.sampleFailure :=
  Reply.sample.inj (congrArg (fun r => r.value.1) h)

/-- A session that was released with a set left active, and then asked for everything again. -/
theorem inert_after_release_twoSets :
    (launch (fun _ => .opens Library.twoSets) [⟨[]⟩]).value = .ok onTwoSets ∧
    let released := (release (performAll [.select, .sample] onTwoSets).value.2).value.2
    let later : List Operation :=
      [.adapters, .catalog, .select, .setWindow (.ofSeconds 1), .release]
    (performAll later released).trace.calls = [] ∧
    (sample (performAll later released).value.2).value.1 =
      .error (.vendorCall "activate metric set" .errorInvalidParameter) ∧
    (performAll later released).value.2.window = .ofSeconds 1 := by
  have hlaunch : (launch (fun _ => .opens Library.twoSets) [⟨[]⟩]).value = .ok onTwoSets :=
    start_twoSets
  obtain ⟨-, hcalls, hstate, hcomes, -, hselection, -⟩ := inert_after_release hlaunch
    [.select, .sample] [.adapters, .catalog, .select, .setWindow (.ofSeconds 1), .release]
  have hfound : (performAll [.select, .sample] onTwoSets).value.1.any Reply.selects = true := by
    decide +kernel
  have hsample := value_sample_of_comesTo (hcomes .sample)
  rw [hfound] at hselection
  refine ⟨hlaunch, hcalls, ?_, ?_⟩
  · rw [hsample, sampleFailure, if_pos hselection]
  · rw [hstate]
    rfl

end Session
end GpuMonitor
