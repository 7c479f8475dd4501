import GpuMonitor.Proofs.Feeding
import GpuMonitor.Proofs.Measuring
import GpuMonitor.Proofs.Stability
import Mathlib.Tactic.Common

/-!
# What a sample reports

While a sample is taken the metrics of the selected set are read one after the other, as many as the
set reports. What is read of each was there before the sample: activating the set and reading the
clocks have no part in it, and neither has the reading of another metric.

* `MetricSet.reported`, `MetricSet.servedNames`: the metrics that a set reports, and the names under
  which they are served.
* `Library.Serves`: the open device has a metric set, and what is left of it. It is what
  `Library.serves_onSet` carries along.
* `value_metricsOf`, `value_readValues`: what is read of a set.
* `FeedsNothing`: the metrics that feed no channel. `Rearranged`: lists of metrics that differ in
  order, in repetitions and in such metrics.

Main result:

* `sample_reports`: what a sample that succeeds shows, and what it does not depend on.
-/

namespace GpuMonitor

variable {α : Type}

namespace Vendor

/-! ## What a set serves -/

/-- The parameters of a metric, if it gives them. -/
def Metric.params? (m : Metric) : Option MetricParams :=
  if m.availability.take.1 then some ⟨m.symbolName.copy, m.shortName.copy, m.units.copy⟩ else none

/-- The name under which a metric is served, if it is served and has one. -/
def Metric.served? (m : Metric) : Option String :=
  if m.availability.take.1 then m.symbolName.copy else none

namespace MetricSet

/-- The metrics that the set reports; it may report more of them than there are. -/
def reported (s : MetricSet) : List (Option Metric) := s.metrics.take s.metricCount

/-- The names under which the reported metrics are served. -/
def servedNames (s : MetricSet) : List String := s.reported.filterMap (·.bind Metric.served?)

end MetricSet

theorem Metric.served?_eq (m : Metric) : m.served? = m.params?.bind MetricParams.symbolName := by
  unfold served? params?
  split <;> rfl

theorem MetricSet.servedNames_eq (s : MetricSet) :
    s.servedNames =
      (s.reported.filterMap (·.bind Metric.params?)).filterMap MetricParams.symbolName := by
  rw [servedNames, List.filterMap_filterMap]
  congr 1
  funext o
  cases o with
  | none => rfl
  | some m => exact m.served?_eq

/-! ## Rearranging metrics -/

/-- The metric feeds the channel by the name under which it is served. -/
def Feeds (o : Option Metric) (c : Channel) : Prop := ∃ name ∈ o.bind Metric.served?, c.FedBy name

/-- The metric feeds no channel. -/
inductive FeedsNothing : Option Metric → Prop where
  | null : FeedsNothing none
  | unnamed {m : Metric} (h : m.symbolName = none) : FeedsNothing (some m)
  | unread {m : Metric} (h : m.availability.take.1 = false) : FeedsNothing (some m)
  /-- The name does not mention `busy`; it may mention `util`. -/
  | notBusy {m : Metric} (h : ∀ name ∈ m.symbolName.copy, ¬Mentions name "busy") :
    FeedsNothing (some m)
  /-- The name mentions no engine. -/
  | noEngine {m : Metric} (h : ∀ name ∈ m.symbolName.copy, ¬Mentions name "render" ∧
      ¬Mentions name "blitter" ∧ ¬Mentions name "video") :
    FeedsNothing (some m)

theorem Metric.served?_eq_some_iff {m : Metric} {name : String} :
    m.served? = some name ↔ m.availability.take.1 = true ∧ m.symbolName.copy = some name := by
  unfold served?
  split <;> simp [*]

theorem FeedsNothing.not_feeds {o : Option Metric} (h : FeedsNothing o) (c : Channel) :
    ¬Feeds o c := by
  cases h with
  | null => exact nofun
  | unnamed h =>
    rintro ⟨name, hname, -⟩
    obtain ⟨-, hcopy⟩ := Metric.served?_eq_some_iff.1 hname
    rw [h] at hcopy
    cases hcopy
  | unread h =>
    rintro ⟨name, hname, -⟩
    obtain ⟨hread, -⟩ := Metric.served?_eq_some_iff.1 hname
    rw [h] at hread
    cases hread
  | notBusy h =>
    rintro ⟨name, hname, hbusy, -⟩
    exact h name (Metric.served?_eq_some_iff.1 hname).2 hbusy
  | noEngine h =>
    rintro ⟨name, hname, -, hnamed⟩
    obtain ⟨hrender, hblitter, hvideo⟩ := h name (Metric.served?_eq_some_iff.1 hname).2
    cases c with
    | render => exact hrender hnamed
    | blitter => exact hblitter hnamed.1
    | video => exact hvideo hnamed.1
    | enhance => exact hnamed

/-- Two lists of metrics that differ in their order, in repetitions, and in metrics that feed
nothing. -/
inductive Rearranged : List (Option Metric) → List (Option Metric) → Prop where
  | perm {l l' : List (Option Metric)} (h : l.Perm l') : Rearranged l l'
  | again {l : List (Option Metric)} {o : Option Metric} (h : o ∈ l) : Rearranged l (o :: l)
  | idle {l : List (Option Metric)} {o : Option Metric} (h : FeedsNothing o) :
    Rearranged l (o :: l)
  | symm {l l' : List (Option Metric)} (h : Rearranged l l') : Rearranged l' l
  | trans {l l' l'' : List (Option Metric)} (h : Rearranged l l') (h' : Rearranged l' l'') :
    Rearranged l l''

/-- A channel is fed by the names of some metrics if one of the metrics feeds it. -/
theorem fed_iff_feeds (l : List (Option Metric)) (c : Channel) :
    (∃ name ∈ l.filterMap (·.bind Metric.served?), c.FedBy name) ↔ ∃ o ∈ l, Feeds o c := by
  constructor
  · rintro ⟨name, hname, hfed⟩
    obtain ⟨o, ho, hserved⟩ := List.mem_filterMap.1 hname
    exact ⟨o, ho, name, hserved, hfed⟩
  · rintro ⟨o, ho, name, hserved, hfed⟩
    exact ⟨name, List.mem_filterMap.2 ⟨o, ho, hserved⟩, hfed⟩

/-- Metrics that are rearranged feed the same channels. -/
theorem Rearranged.feeds_iff {l l' : List (Option Metric)} (h : Rearranged l l') (c : Channel) :
    (∃ o ∈ l', Feeds o c) ↔ ∃ o ∈ l, Feeds o c := by
  -- on the ways to rearrange: none of them adds or takes away a metric that feeds the channel
  induction h with
  | perm h => exact exists_congr fun o => and_congr_left fun _ => h.mem_iff.symm
  | @again l o h =>
    simp only [List.mem_cons, exists_eq_or_imp]
    exact or_iff_right_of_imp fun hfeeds => ⟨o, h, hfeeds⟩
  | idle h =>
    simp only [List.mem_cons, exists_eq_or_imp]
    exact or_iff_right (h.not_feeds c)
  | symm _ ih => exact ih.symm
  | trans _ _ ih ih' => exact ih'.trans ih

theorem Rearranged.fed_iff {l l' : List (Option Metric)} (h : Rearranged l l') (c : Channel) :
    (∃ name ∈ l'.filterMap (·.bind Metric.served?), c.FedBy name) ↔
      ∃ name ∈ l.filterMap (·.bind Metric.served?), c.FedBy name := by
  rw [fed_iff_feeds, fed_iff_feeds, h.feeds_iff]

/-! ## Acting on a child -/

/-- The set at a place after an action on it. -/
theorem Device.metricSet?_seekSet (a : Nat) (id : MetricSetId) (m : Action MetricSet α)
    (d : Device) :
    (seekSet a id m d).value.2.metricSet? id = (d.metricSet? id).map fun s => (m s).value.2 := by
  have hgroup : (seekSet a id m d).value.2.groups[id.group]?.join =
      d.groups[id.group]?.join.map fun g => (ConcurrentGroup.seekSet a id m g).value.2 :=
    child_hold (fun _ _ => rfl) id.group (ConcurrentGroup.seekSet a id m) d
  rw [metricSet?, metricSet?, hgroup]
  cases d.groups[id.group]?.join with
  | none => rfl
  | some g => exact child_hold (fun _ _ => rfl) id.set m g

end Vendor

open Vendor

namespace Library

/-! ## The open device after an action -/

theorem opened_onDevice {lib : Library} {a : Nat} {dev : Device} (h : lib.Opened a dev)
    (m : Nat → Action Device (Option α)) :
    (onDevice m lib).value.2.Opened a (m a dev).value.2 := by
  obtain ⟨n, ad, hdev, had, rfl⟩ := h
  have hchild : ((AdapterGroup.holdAdapter a (Adapter.onDevice (m a))
      (lib.vendor.tree n)).value.2.adapters)[a]?.join =
        some (Adapter.onDevice (m a) ad).value.2 := by
    refine (child_hold (fun _ _ => rfl) a (Adapter.onDevice (m a)) (lib.vendor.tree n)).trans ?_
    rw [had]
    rfl
  have hleft : (onDevice m lib).value.2 =
      { lib with
        vendor := lib.vendor.putTree n (AdapterGroup.holdAdapter a (Adapter.onDevice (m a))
          (lib.vendor.tree n)).value.2 } := by
    simp [onDevice, onAdapter, onVendor, State.onTree, hdev]
  rw [hleft]
  refine ⟨n, (Adapter.onDevice (m a) ad).value.2, hdev, ?_, rfl⟩
  rw [State.tree_putTree]
  exact hchild

/-- The open device of an adapter has a metric set, and this is what is left of it. -/
def Serves (lib : Library) (a : Nat) (id : MetricSetId) (set : MetricSet) : Prop :=
  ∃ dev, lib.Opened a dev ∧ dev.metricSet? id = some set

section
variable {lib : Library} {a : Nat} {id : MetricSetId} {set : MetricSet}

theorem serves_onSet (h : lib.Serves a id set) (m : Nat → Action MetricSet (Option α)) :
    (onSet id m lib).value.1 = (m a set).value.1 ∧
      (onSet id m lib).value.2.Serves a id (m a set).value.2 := by
  obtain ⟨dev, hdev, hset⟩ := h
  refine ⟨value_onSet hdev hset m, _, opened_onDevice hdev _, ?_⟩
  show (Device.seekSet a id (m a) dev).value.2.metricSet? id = _
  rw [Device.metricSet?_seekSet, hset]
  rfl

/-! ## Reading a set -/

theorem serves_readMetricSet (h : lib.Serves a id set) {params : MetricSetParams}
    (hparams : (Gateway.readMetricSet id lib).value.1 = some params) :
    params.metricCount = set.metricCount ∧
      ∃ left, (Gateway.readMetricSet id lib).value.2.Serves a id left ∧
        left.metrics = set.metrics := by
  obtain ⟨hvalue, hserves⟩ := serves_onSet h fun a => MetricSet.read (.metricSet a id)
  refine ⟨?_, _, hserves, rfl⟩
  have hread : (MetricSet.read (.metricSet a id) set).value.1 = some params :=
    hvalue.symm.trans hparams
  cases hgiven : set.availability.take.1 <;> simp [MetricSet.read, ask, hgiven] at hread
  rw [← hread]

/-- A metric is read as it is, and the metrics after it are left alone. -/
theorem serves_readMetric (h : lib.Serves a id set) (i : Nat) :
    (Gateway.readMetric id i lib).value.1 = set.metrics[i]?.join.bind Metric.params? ∧
      ∃ left, (Gateway.readMetric id i lib).value.2.Serves a id left ∧
        left.metrics.drop (i + 1) = set.metrics.drop (i + 1) := by
  obtain ⟨hvalue, hserves⟩ := serves_onSet h fun a =>
    Option.join <$> MetricSet.seekMetric a id i (Metric.read (.metric a id i))
  -- only the metric at the place may have used up a reading
  refine ⟨hvalue.trans ?_, _, hserves, ?_⟩
  · simp only [Action.value_map, MetricSet.seekMetric, value_seek, value_hold]
    cases set.metrics[i]?.join with
    | none => rfl
    | some m =>
      cases hgiven : m.availability.take.1 <;> simp [Metric.read, Metric.params?, ask, hgiven]
  · simp only [Action.value_map, MetricSet.seekMetric, value_seek]
    cases hm : set.metrics[i]?.join with
    | none => simp only [hold, hm]
    | some m =>
      simp only [hold, hm]
      exact List.drop_set_of_lt (Nat.lt_succ_self i)

/-- The metrics at some places in a row are read as they are. -/
theorem value_collect_readMetric (h : lib.Serves a id set) (start count : Nat) :
    (collect (Gateway.readMetric id) start count lib).value.1 =
      ((set.metrics.drop start).take count).filterMap (·.bind Metric.params?) := by
  -- on the count, from a set whose metrics from the place on are as they were
  induction count generalizing start lib set with
  | zero =>
    rw [collect_zero, List.take_zero]
    rfl
  | succ n ih =>
    obtain ⟨hvalue, left, hserves, hdrop⟩ := serves_readMetric h start
    rw [collect_succ, Action.value_bind, Action.value_bind, Action.value_pure, hvalue, ih hserves,
      hdrop]
    -- a set may report more metrics than it has; no more come then
    cases hm : set.metrics[start]? with
    | none =>
      have hend := List.getElem?_eq_none_iff.1 hm
      rw [List.drop_eq_nil_of_le hend, List.drop_eq_nil_of_le (by omega)]
      simp
    | some o =>
      obtain ⟨hlt, hget⟩ := List.getElem?_eq_some_iff.1 hm
      rw [List.drop_eq_getElem_cons hlt, List.take_succ_cons, List.filterMap_cons, hget]
      cases h : o.bind Metric.params? <;> simp [h]

/-- The values of a set are read off the parameters of its reported metrics. -/
theorem value_readValues (h : lib.Serves a id set) {u : Utilization}
    (hu : (Session.readValues id lib).value.1 = .ok u) :
    u = Session.readingOf (set.reported.filterMap (·.bind Metric.params?)) := by
  cases hparams : (Gateway.readMetricSet id lib).value.1 with
  | none =>
    rw [Session.readValues_of_unread hparams] at hu
    cases hu
  | some params =>
    obtain ⟨hcount, left, hserves, hmetrics⟩ := serves_readMetricSet h hparams
    obtain ⟨metrics, hread, hvalue, -⟩ := Session.readValues_of_read hparams
    rw [hvalue] at hu
    have hlist := value_collect_readMetric hserves 0 params.metricCount
    rw [List.drop_zero, hmetrics, hcount] at hlist
    rw [← Except.ok.inj hu, hread, MetricSet.reported, metricsOf, hcount, hlist]

/-! ## The set at its activation and at its reading -/

/-- Only a set that is there is activated. -/
theorem serves_of_accepted (h : (activate id lib).value.1.isAccepted = true) :
    ∃ a set, lib.Serves a id set := by
  -- if there is no device, adapter or set at its place, the answer is that of a missing object
  cases hdevice : lib.device with
  | none =>
    simp [activate, onSet, onDevice, hdevice] at h
    cases h
  | some d =>
    cases had : (lib.vendor.tree d.tree).adapters[d.adapter]?.join with
    | none =>
      simp [activate, onSet, onDevice, onAdapter, onVendor, State.onTree, AdapterGroup.holdAdapter,
        value_hold, hdevice, had] at h
      cases h
    | some ad =>
      have hdev : lib.Opened d.adapter ad.device := ⟨d.tree, ad, hdevice, had, rfl⟩
      cases hset : ad.device.metricSet? id with
      | none =>
        simp [activate, onSet, value_onDevice hdev, Device.value_seekSet, hset] at h
        cases h
      | some set => exact ⟨d.adapter, set, ad.device, hdev, hset⟩

theorem serves_activate (h : lib.Serves a id set) :
    ∃ left, (activate id lib).value.2.Serves a id left ∧ left.reported = set.reported :=
  ⟨_, (serves_onSet h fun a => some <$> MetricSet.activate a id).2, rfl⟩

theorem serves_readClocks (h : lib.Serves a id set) :
    (readClocks lib).value.2.Serves a id set := by
  obtain ⟨dev, hdev, hset⟩ := h
  exact ⟨_, opened_onDevice hdev fun a => some <$> Device.readClocks a, hset⟩

end

end Library

namespace Session

variable {s : Session Library} {u : Utilization}

/-- The selected set, as the open device serves it. -/
def Offers (s : Session Library) (set : MetricSet) : Prop :=
  ∃ selection a, s.selection = some selection ∧ s.gateway.Serves a selection.id set

/-- A sample that succeeds has read the selected set as it was before the sample. -/
theorem shows_sample (h : (sample s).value.1 = .ok u) :
    ∃ set, s.Offers set ∧ u.Shows set.servedNames := by
  cases hsel : s.selection with
  | none =>
    rw [sample_of_none hsel] at h
    cases h
  | some selection =>
    cases hcode : (Library.activate selection.id s.gateway).value.1.isAccepted with
    | false =>
      rw [(sample_of_refused hsel hcode).1] at h
      cases h
    | true =>
      -- the set is followed from its activation over the clocks to its reading
      obtain ⟨a, set, hserves⟩ := Library.serves_of_accepted hcode
      obtain ⟨active, hactive, hvalue, -⟩ := sample_of_accepted hsel hcode
      obtain ⟨left, hleft, hreported⟩ := Library.serves_activate hserves
      obtain ⟨clocked, read, hclocked, -, hmeasured, -⟩ := measure_spec selection.id active
      have hgateway : clocked.gateway = (Library.readClocks active.gateway).value.2 := by
        rw [hclocked, (readClocks_spec active).1]
      have hreading : clocked.gateway.Serves a selection.id left := by
        rw [hgateway, hactive]
        exact Library.serves_readClocks hleft
      rw [hvalue, hmeasured] at h
      cases hread : (readValues selection.id clocked.gateway).value.1 with
      | error f =>
        rw [hread] at h
        cases h
      | ok values =>
        rw [hread] at h
        obtain rfl := Except.ok.inj h
        obtain rfl := Library.value_readValues hreading hread
        refine ⟨set, ⟨selection, a, hsel, hserves⟩, ?_⟩
        rw [MetricSet.servedNames_eq, ← hreported]
        exact shows_readingOf _ _

/-- What a session offers is one set. -/
theorem Offers.unique {set set' : MetricSet} (h : s.Offers set) (h' : s.Offers set') :
    set' = set := by
  obtain ⟨selection, a, hsel, dev, ⟨n, ad, hdevice, had, rfl⟩, hset⟩ := h
  obtain ⟨selection', a', hsel', dev', ⟨n', ad', hdevice', had', rfl⟩, hset'⟩ := h'
  -- the selection, the device, its adapter and the set at the place are found in turn
  obtain rfl := Option.some.inj (hsel.symm.trans hsel')
  obtain ⟨rfl, rfl⟩ := OpenDevice.mk.inj (Option.some.inj (hdevice.symm.trans hdevice'))
  obtain rfl := Option.some.inj (had.symm.trans had')
  exact Option.some.inj (hset'.symm.trans hset)

/--
**What a sample reports.** A sample that succeeds has read the selected set, and shows the names
under which its reported metrics are served:

* `render` is 25 if some name mentions `busy` and `render`, `blitter` is 5 if some name mentions
  `busy` and `blitter` but not `render`, and `video` is 10 if some name mentions `busy` and `video`
  but neither of the others; letters of both cases are equal. Else a channel is 0, as `enhance`
  always is. The total is exactly the sum, and nothing is scaled.
* It is the same as any sample of a set whose reported metrics are rearranged: put in another
  order, repeated, or mixed with metrics that feed nothing: null ones, those that are not available
  or have no name, and those whose name is without `busy` or without an engine.
* It is the same as any sample of a set with the same metrics, if both report at least as many as
  there are.

The clocks of a sample are no part of this.
-/
theorem sample_reports (h : (sample s).value.1 = .ok u) :
    (∃ set, s.Offers set) ∧ ∀ set, s.Offers set → u.Shows set.servedNames ∧
      ∀ s' u' set', (sample s').value.1 = .ok u' → s'.Offers set' →
        (Rearranged set.reported set'.reported → u'.untimed = u.untimed) ∧
        (set'.metrics = set.metrics → set.metrics.length ≤ set.metricCount →
          set.metrics.length ≤ set'.metricCount → u'.untimed = u.untimed) := by
  have hshows {s : Session Library} {u : Utilization} (h : (sample s).value.1 = .ok u)
      {set : MetricSet} (hset : s.Offers set) : u.Shows set.servedNames := by
    obtain ⟨set', hset', hshows⟩ := shows_sample h
    rw [hset'.unique hset]
    exact hshows
  obtain ⟨read, hread, -⟩ := shows_sample h
  refine ⟨⟨read, hread⟩, fun set hset => ⟨hshows h hset, fun s' u' set' h' hset' => ?_⟩⟩
  have hsame (hr : Rearranged set.reported set'.reported) : u'.untimed = u.untimed :=
    (hshows h hset).untimed_eq (hshows h' hset') fun c => hr.fed_iff c
  -- a count that is high enough reports all metrics, in the order that they have
  refine ⟨hsame, fun hmetrics hover hover' => hsame (.perm ?_)⟩
  rw [MetricSet.reported, MetricSet.reported, hmetrics, List.take_of_length_le hover,
    List.take_of_length_le hover']

/-- A session over a device whose one metric set is selected. -/
def offering (set : MetricSet) : Session Library where
  gateway :=
    { path := ⟨[]⟩
      vendor := { script := .patchy, latest := { adapters := [some adapter] } }
      groupOpen := true
      device := some ⟨0, 0⟩ }
  selection := some ⟨⟨0, 0⟩, none⟩
where
  adapter : Adapter :=
    { vendorId := 0x8086, deviceId := 0, device := { groups := [some { sets := [some set] }] } }

theorem offers_offering (set : MetricSet) : (offering set).Offers set :=
  ⟨⟨⟨0, 0⟩, none⟩, 0, rfl, _, ⟨0, offering.adapter set, rfl, rfl, rfl⟩, rfl⟩

/-- The set of `patchy` with its metrics, and with `RenderBusy` first and last instead of those that
feed nothing. -/
theorem sample_reports_patchy :
    let set := Script.patchy.set
    let set' : MetricSet :=
      { set with
        metricCount := 3
        metrics := [some Script.patchy.busy, some Script.patchy.util, some Script.patchy.busy] }
    let u : Utilization := { render := 25, total := 25, timestamps := some ⟨0, 0, 0⟩ }
    (sample (offering set)).value.1 = .ok u ∧ set.servedNames = ["VideoUtil", "RenderBusy"] ∧
      u.Shows set.servedNames ∧
      ∃ u', (sample (offering set')).value.1 = .ok u' ∧ u'.untimed = u.untimed := by
  intro set set' u
  have h : (sample (offering set)).value.1 = .ok u := by decide +kernel
  have h' : (sample (offering set')).value.1 = .ok u := by decide +kernel
  obtain ⟨-, hreports⟩ := sample_reports h
  obtain ⟨hshows, hsame⟩ := hreports set (offers_offering set)
  obtain ⟨hrearranged, -⟩ := hsame _ _ _ h' (offers_offering set')
  refine ⟨h, by decide +kernel, hshows, u, h', hrearranged ?_⟩
  -- the three metrics that feed nothing are left out, and then the last one is repeated
  have hidle : Rearranged [some Script.patchy.util, some Script.patchy.busy] set.reported :=
    .trans (.idle (.unread rfl)) (.trans (.idle (.unnamed rfl)) (.idle .null))
  have hagain : Rearranged [some Script.patchy.util, some Script.patchy.busy] set'.reported :=
    .again (by decide)
  exact hidle.symm.trans hagain

end Session
end GpuMonitor
