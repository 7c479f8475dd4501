import GpuMonitor.Proofs.Reading
import GpuMonitor.Proofs.Steps

/-!
# What a sample comes to

A sample activates the selected set, reads the clocks, lets the window pass, reads the set and
deactivates it. What the calls answer decides what is given back and whether the set is left
active; nothing else of the session depends on them.

* `Trace.milestones`: the lifecycle of a trace with the readings of metric sets.
* `milestones_readValues`, `measure_of_opened`: what reading the values and measuring leave.
* `Sampled`: what a sample of a selected set comes to.

Main result:

* `sampled_of_opened`: a sample of a set of the open device comes to one of these.
-/

namespace GpuMonitor

open Vendor

/-! ## Milestones -/

/-- The event is one of the lifecycle, or the parameters of a metric set are asked for. -/
def Event.isMilestone : Event → Bool
  | vendor (.read (.metricSet _ _) _) => true
  | e => e.isLifecycle

/-- The lifecycle of a trace, with the readings of metric sets. -/
def Trace.milestones (t : Trace) : Trace := t.filter Event.isMilestone

@[simp] theorem Trace.milestones_append (t u : Trace) :
    milestones (t ++ u) = t.milestones ++ u.milestones := List.filter_append ..

theorem Trace.milestones_of_none {t : Trace} (h : ∀ e ∈ t, e.isMilestone = false) :
    t.milestones = [] :=
  List.filter_eq_nil_iff.2 fun e he => by rw [h e he]; decide

/-- The lifecycle is among the milestones. -/
theorem Trace.lifecycle_milestones (t : Trace) : t.milestones.lifecycle = t.lifecycle := by
  rw [lifecycle, lifecycle, milestones, List.filter_filter]
  refine List.filter_congr fun e _ => ?_
  -- only a reading can be a milestone without being one of the lifecycle
  unfold Event.isMilestone
  split
  · rfl
  · exact Bool.and_self _

@[simp] theorem milestones_warnUnlessOk {σ : Type} (what : String) (code : CompletionCode) (s : σ) :
    (warnUnlessOk what code s).trace.milestones = [] := by
  rw [trace_warnUnlessOk]
  split <;> rfl

/-! ## Reading the values -/

section
variable {γ : Type} [Gateway γ] {g : γ} {id : MetricSetId}

theorem Session.readValues_of_unread (h : (Gateway.readMetricSet id g).value.1 = none) :
    readValues id g =
      { value := (.error (.missingParams "metric set"), (Gateway.readMetricSet id g).value.2)
        trace := (Gateway.readMetricSet id g).trace } := by
  apply Traced.ext' <;> simp [readValues, h]

/-- The metrics are read from what the reading of the set has left. -/
theorem Session.readValues_of_read {params : MetricSetParams}
    (h : (Gateway.readMetricSet id g).value.1 = some params) :
    ∃ metrics, metrics = metricsOf id params.metricCount (Gateway.readMetricSet id g).value.2 ∧
      (readValues id g).value = (.ok (readingOf metrics.value.1), metrics.value.2) ∧
      (readValues id g).trace = (Gateway.readMetricSet id g).trace ++ metrics.trace := by
  refine ⟨_, rfl, ?_, ?_⟩ <;> simp [readValues, h]

end

namespace Library

variable {lib : Library} {a : Nat} {id : MetricSetId}

/-- The device of an adapter is open, and has the metric set. -/
def Reaches (lib : Library) (a : Nat) (id : MetricSetId) : Prop :=
  ∃ dev, lib.Opened a dev ∧ (dev.metricSet? id).isSome

theorem Reaches.of_lasting {lib' : Library} (h : lib.Reaches a id)
    (hl : lib'.lasting = lib.lasting) : lib'.Reaches a id := by
  obtain ⟨dev, hdev, hs⟩ := h
  obtain ⟨dev', hdev', hlast⟩ := hdev.of_lasting hl
  refine ⟨dev', hdev', ?_⟩
  rw [metricSet?_isSome_of_lasting hlast]
  exact hs

/-- Reading a metric is no milestone. -/
theorem minor_readMetric (id : MetricSetId) (i : Nat) :
    Emits (fun e => e.isMilestone = false) (Gateway.readMetric (γ := Library) id i) := by
  have hminor : Obeys (Using fun e => e.isMilestone = false) (readMetric id i) :=
    using_onSet (fun _ => obeys_map _ (MetricSet.keeps_seekMetric (Metric.keeps_read _)))
      (fun _ => obeys_map _ (emits_seek (emits_ask fun _ => rfl) fun _ => rfl)) fun _ _ => rfl
  exact fun lib => (hminor lib).2

/-- The parameters of a set that is there are asked for once, and given or not. -/
theorem trace_readMetricSet (h : lib.Reaches a id) :
    (Gateway.readMetricSet id lib).trace = Device.reaching a id ++
      [.vendor (.read (.metricSet a id) (Gateway.readMetricSet id lib).value.1.isSome)] := by
  obtain ⟨dev, hdev, hs⟩ := h
  obtain ⟨set, hs⟩ := Option.isSome_iff_exists.1 hs
  show (readMetricSet id lib).trace = Device.reaching a id ++
    [.vendor (.read (.metricSet a id) (readMetricSet id lib).value.1.isSome)]
  rw [readMetricSet, trace_onSet hdev hs, value_onSet hdev hs]
  cases hgiven : set.availability.take.1 <;> simp [MetricSet.read, ask, hgiven]

/-- The values of a set that is there are read if its parameters are given. -/
theorem milestones_readValues (h : lib.Reaches a id) :
    ∃ found : Bool, (Session.readValues id lib).trace.milestones =
        [.vendor (.read (.metricSet a id) found)] ∧
      if found then ∃ u, (Session.readValues id lib).value.1 = .ok u
      else (Session.readValues id lib).value.1 = .error (.missingParams "metric set") := by
  have hread := trace_readMetricSet h
  cases hparams : (Gateway.readMetricSet id lib).value.1 with
  | none =>
    rw [hparams] at hread
    rw [Session.readValues_of_unread hparams, hread]
    exact ⟨false, rfl, rfl⟩
  | some params =>
    -- the reading of the set has a value now, whatever is read of its metrics
    obtain ⟨metrics, hmetrics, hvalue, htrace⟩ := Session.readValues_of_read hparams
    have hminor : metrics.trace.milestones = [] := by
      refine Trace.milestones_of_none ?_
      rw [hmetrics]
      exact obeys_collect (composes_emits _) (minor_readMetric id) 0 _ _
    rw [hparams] at hread
    refine ⟨true, ?_, _, by rw [hvalue]⟩
    rw [htrace, Trace.milestones_append, hminor, hread]
    rfl

end Library

/-! ## Measuring -/

theorem CompletionCode.isAccepted_iff {code : CompletionCode} :
    code.isAccepted = true ↔ code = .ok ∨ code = .alreadyInitialized := by
  simp [CompletionCode.isAccepted]

theorem Utilization.timestamps_normalize (u : Utilization) :
    u.normalize.timestamps = u.timestamps := by
  unfold Utilization.normalize
  split <;> rfl

namespace Session

variable {a : Nat} {dev : Device} {id : MetricSetId} {s : Session Library}

/-- The clocks are read by one call, and had if and only if it succeeds. -/
theorem readClocks_of_opened (h : s.gateway.Opened a dev) :
    ∃ clock, (readClocks s).trace.milestones = [.vendor (.readClocks a clock)] ∧
      (readClocks s).value.1 = if clock.isOk then some dev.clocks else none := by
  obtain ⟨clock, htrace, hvalue⟩ := Library.trace_readClocks h
  obtain ⟨-, hclocks⟩ := readClocks_spec s
  rw [hclocks, htrace, hvalue, CompletionCode.toExcept]
  -- a record follows in either case
  cases hok : clock.isOk with
  | true =>
    simp only [hok, CompletionCode.toExcept] at hvalue
    exact ⟨clock, rfl, by simp [readClocks, onGateway, hvalue, hok, Except.map]⟩
  | false =>
    simp only [hok, CompletionCode.toExcept] at hvalue
    exact ⟨clock, rfl, by simp [readClocks, onGateway, hvalue, hok, Except.map]⟩

/-- A set is deactivated by one call, and is left active unless that succeeds. -/
theorem deactivate_of_reaches (h : s.gateway.Reaches a id) :
    ∃ ending lib, (deactivate id s).trace.milestones = [.vendor (.deactivate a id ending)] ∧
      lib.lasting = s.gateway.lasting ∧
      (deactivate id s).value.2 =
        { s with gateway := lib, active := s.active && !ending.isOk } := by
  obtain ⟨dev, hdev, hs⟩ := h
  obtain ⟨hstate, htrace⟩ := deactivate_spec id s
  refine ⟨_, _, ?_, (Library.using_deactivate id s.gateway).1, hstate⟩
  -- the warning about a failure is no milestone
  rw [htrace, Trace.milestones_append, milestones_warnUnlessOk, Library.trace_deactivate hdev hs]
  rfl

/-- What comes of measuring: the clocks are read, the window passes, the set is read, and it is
deactivated whatever comes of the reading. -/
theorem measure_of_opened (h : s.gateway.Opened a dev) (hs : (dev.metricSet? id).isSome) :
    ∃ clock found ending lib,
      (measure id s).trace.milestones = [.vendor (.readClocks a clock), .wait s.window,
        .vendor (.read (.metricSet a id) found), .vendor (.deactivate a id ending)] ∧
      (if found then ∃ u, (measure id s).value.1 = .ok u ∧
          u.timestamps = if clock.isOk then some dev.clocks else none
        else (measure id s).value.1 = .error (.missingParams "metric set")) ∧
      lib.lasting = s.gateway.lasting ∧
      (measure id s).value.2 =
        { s with gateway := lib, active := s.active && !ending.isOk } := by
  obtain ⟨clocked, read, hclocked, hread, hvalue, htrace⟩ := measure_spec id s
  obtain ⟨clock, hclock, htimes⟩ := readClocks_of_opened h
  have hstate : clocked = { s with gateway := (Library.readClocks s.gateway).value.2 } := by
    rw [hclocked, (readClocks_spec s).1]
  -- the set is reached whenever it is called, since the calls before change nothing that lasts
  have hlast : clocked.gateway.lasting = s.gateway.lasting := by
    rw [hstate]
    exact (Library.using_readClocks s.gateway).1
  have hlast' : read.gateway.lasting = clocked.gateway.lasting := by
    rw [hread]
    exact (obeys_readValues Library.reading_using id clocked.gateway).1
  have hreach : clocked.gateway.Reaches a id := Library.Reaches.of_lasting ⟨dev, h, hs⟩ hlast
  obtain ⟨found, hfound, hanswer⟩ := Library.milestones_readValues hreach
  obtain ⟨ending, lib, hending, hlib, hleft⟩ := deactivate_of_reaches (hreach.of_lasting hlast')
  refine ⟨clock, found, ending, lib, ?_, ?_, hlib.trans (hlast'.trans hlast), ?_⟩
  · have hwindow : clocked.window = s.window := by rw [hstate]
    simp only [htrace, Trace.milestones_append, hclock, hfound, hending, hwindow]
    rfl
  · rw [hvalue, htimes]
    -- the times are put into what was read, and normalizing leaves them alone
    cases found with
    | false =>
      rw [if_neg (by decide)] at hanswer ⊢
      rw [hanswer]
      rfl
    | true =>
      rw [if_pos rfl] at hanswer ⊢
      obtain ⟨u, hu⟩ := hanswer
      exact ⟨_, by rw [hu]; rfl, Utilization.timestamps_normalize _⟩
  · rw [hvalue, hleft, hread, hstate]

/-! ## Samples -/

/-- What a sample of a selected set comes to, over the open device of an adapter. -/
inductive Sampled (s : Session Library) (a : Nat) (dev : Device) (id : MetricSetId)
    (r : Traced (Except Failure Utilization × Session Library)) : Prop where
  /-- The activation is refused. It is the last call, and nothing of the session changes. -/
  | refused (code : CompletionCode) (lib : Library)
    (hcode : code ≠ .ok ∧ code ≠ .alreadyInitialized)
    (htrace : r.trace = Device.reaching a id ++ [.vendor (.activate a id code)])
    (hanswer : r.value.1 = .error (.vendorCall "activate metric set" code))
    (hlib : lib.lasting = s.gateway.lasting)
    (hstate : r.value.2 = { s with gateway := lib })
  /-- The activation is accepted. The clocks are read, the window passes, the set is read, and it
  is deactivated whether or not it was found. Whether the clocks are had is decided by their call,
  and whether the set is left active by its deactivation. -/
  | measured (code clock ending : CompletionCode) (found : Bool) (lib : Library)
    (hcode : code = .ok ∨ code = .alreadyInitialized)
    (htrace : r.trace.milestones = [.vendor (.activate a id code), .vendor (.readClocks a clock),
      .wait s.window, .vendor (.read (.metricSet a id) found), .vendor (.deactivate a id ending)])
    (hanswer : if found then ∃ u, r.value.1 = .ok u ∧
        u.timestamps = if clock.isOk then some dev.clocks else none
      else r.value.1 = .error (.missingParams "metric set"))
    (hlib : lib.lasting = s.gateway.lasting)
    (hstate : r.value.2 = { s with gateway := lib, active := !ending.isOk })

theorem sampled_of_opened {selection : Selection} (h : s.gateway.Opened a dev)
    (hsel : s.selection = some selection) (hs : (dev.metricSet? selection.id).isSome) :
    Sampled s a dev selection.id (sample s) := by
  have hactivate := Library.trace_activate h hs
  have hlast := (Library.using_activate selection.id s.gateway).1
  cases hcode : (Library.activate selection.id s.gateway).value.1.isAccepted with
  | false =>
    obtain ⟨hvalue, htrace⟩ := sample_of_refused hsel hcode
    have hrefused := mt CompletionCode.isAccepted_iff.2 (by rw [hcode]; decide)
    exact .refused _ _ (not_or.1 hrefused) (htrace.trans hactivate) (by rw [hvalue]) hlast
      (by rw [hvalue])
  | true =>
    obtain ⟨active, hactive, hvalue, htrace⟩ := sample_of_accepted hsel hcode
    have haccepted := CompletionCode.isAccepted_iff.1 hcode
    -- what is measured is the device that the activation has left
    have hlast' : active.gateway.lasting = s.gateway.lasting := by
      rw [hactive]
      exact hlast
    obtain ⟨dev', h', hdev'⟩ := h.of_lasting hlast'
    have hs' : (dev'.metricSet? selection.id).isSome := by
      rw [Library.metricSet?_isSome_of_lasting hdev']
      exact hs
    have hclocks : dev'.clocks = dev.clocks := by
      show dev'.lasting.clocks = dev.lasting.clocks
      rw [hdev']
    obtain ⟨clock, found, ending, lib, hmeasured, hanswer, hlib, hleft⟩ := measure_of_opened h' hs'
    rw [hclocks] at hanswer
    refine .measured _ clock ending found lib haccepted ?_ (by rw [hvalue]; exact hanswer)
      (hlib.trans hlast') ?_
    · have hwindow : active.window = s.window := by rw [hactive]
      rw [htrace, Trace.milestones_append, hactivate, hmeasured, hwindow]
      rfl
    · rw [hvalue, hleft, hactive, Bool.true_and]

end Session
end GpuMonitor
