import GpuMonitor.Proofs.Entries

/-!
# What a session lists

Over a stable tree every reading finds what the tree says, whatever the session has done before. So
its adapters are the records of the tree, and its catalog is that of the tree's device, at any time
until the session is released.

* `Library.value_catalog`, `value_listAdapters`: what is listed of an open device and group.
* `Event.isHandling`: the calls that open and close.
* `Library.Shows`: an open library serves the entries of a group and of a device. It does so until
  something is opened or closed (`Session.obeying_shows`).
* `Session.OpenOver`: a session in use over a tree.

Main result:

* `catalog_exact`: what such a session lists, and what becomes of it when the tree is changed.
-/

namespace GpuMonitor

open Vendor

variable {α : Type}

/-! ## Reading a stable device -/

namespace Library

section
variable {lib : Library} {a : Nat} {dev : Device} (h : lib.Opened a dev)
include h

theorem value_readDevice : (Gateway.readDevice lib).value.1 = dev.params? := by
  show (readDevice lib).value.1 = _
  rw [readDevice, value_onDevice h]
  cases hgiven : dev.availability.take.1 <;> simp [Device.read, ask, Device.params?, hgiven]

theorem value_readConcurrentGroup (i : Nat) :
    (Gateway.readConcurrentGroup i lib).value.1 =
      dev.groups[i]?.join.bind ConcurrentGroup.params? := by
  show (readConcurrentGroup i lib).value.1 = _
  rw [readConcurrentGroup, value_onDevice h]
  simp only [Action.value_map, Device.seekGroup, value_seek, value_hold]
  cases dev.groups[i]?.join with
  | none => rfl
  | some g =>
    cases hgiven : g.availability.take.1 <;>
      simp [ConcurrentGroup.read, ask, ConcurrentGroup.params?, hgiven]

theorem value_readMetricSet (id : MetricSetId) :
    (Gateway.readMetricSet id lib).value.1 = (dev.metricSet? id).bind MetricSet.params? := by
  show (readMetricSet id lib).value.1 = _
  rw [readMetricSet, onSet, value_onDevice h, Action.value_map, Device.value_seekSet]
  cases dev.metricSet? id with
  | none => rfl
  | some s =>
    cases hgiven : s.availability.take.1 <;> simp [MetricSet.read, ask, MetricSet.params?, hgiven]

variable (hs : lib.Stable)
include hs

theorem value_metricsOf_set {id : MetricSetId} {s : MetricSet} (hset : dev.metricSet? id = some s) :
    (metricsOf id s.metricCount lib).value = (s.placedMetrics.map Prod.snd, lib) := by
  have hvisit (i : Nat) : (Gateway.readMetric id i lib).value.2 = lib :=
    (reading_rests.metric id i lib hs).2 trivial
  rw [metricsOf, value_collect_of_rests hvisit, s.map_snd_placedMetrics, placed,
    List.range_eq_range']
  congr 2
  funext i
  exact (serves_readMetric ⟨dev, h, hset⟩ i).1

/-- A set is read as its entry. -/
theorem value_readSetEntry (id : MetricSetId) :
    (readSetEntry id lib).value = ((dev.metricSet? id).bind fun s => s.entryAt? id, lib) := by
  have hparams := value_readMetricSet h id
  have hrest : (Gateway.readMetricSet id lib).value.2 = lib :=
    (reading_rests.metricSet id lib hs).2 trivial
  rw [readSetEntry, Action.value_bind, hrest]
  cases hset : dev.metricSet? id with
  | none =>
    rw [hset] at hparams
    rw [hparams]
    rfl
  | some s =>
    rw [hset, Option.bind_some] at hparams
    rw [hparams, Option.bind_some, MetricSet.entryAt?]
    -- the count that is read is the one that the set reports
    cases hgiven : s.params? with
    | none => rfl
    | some params =>
      have hcount : params.metricCount = s.metricCount := by
        unfold MetricSet.params? at hgiven
        split at hgiven
        · rw [← Option.some.inj hgiven]
        · cases hgiven
      simp only [Action.value_bind, hcount, value_metricsOf_set h hs hset]
      rfl

/-- A concurrent group is read as its entry. -/
theorem value_readGroupEntry (i : Nat) :
    (readGroupEntry i lib).value = (dev.groups[i]?.join.bind fun g => g.entryAt? i, lib) := by
  have hparams := value_readConcurrentGroup h i
  have hrest : (Gateway.readConcurrentGroup i lib).value.2 = lib :=
    (reading_rests.concurrentGroup i lib hs).2 trivial
  rw [readGroupEntry, Action.value_bind, hrest]
  cases hgroup : dev.groups[i]?.join with
  | none =>
    rw [hgroup] at hparams
    rw [hparams]
    rfl
  | some g =>
    rw [hgroup, Option.bind_some] at hparams
    rw [hparams, Option.bind_some, ConcurrentGroup.entryAt?]
    cases hgiven : g.params? with
    | none => rfl
    | some params =>
      have hcount : params.metricSetCount = g.setCount := by
        unfold ConcurrentGroup.params? at hgiven
        split at hgiven
        · rw [← Option.some.inj hgiven]
        · cases hgiven
      have hvisit (j : Nat) : (readSetEntry ⟨i, j⟩ lib).value.2 = lib := by
        rw [value_readSetEntry h hs]
      have hsets : (collect (fun j => readSetEntry ⟨i, j⟩) 0 params.metricSetCount lib).value =
          (g.setEntries i, lib) := by
        rw [value_collect_of_rests hvisit, hcount, ConcurrentGroup.setEntries, placed,
          List.range_eq_range']
        congr 2
        funext j
        rw [value_readSetEntry h hs, Device.metricSet?, hgroup, Option.bind_some]
      simp only [Action.value_bind, hsets]
      rfl

/-- The catalog of a device is had if its parameters are, and lists its entries. -/
theorem value_catalog :
    (catalog lib).value.1 = if dev.params?.isSome then .ok dev.entries
      else .error (.missingParams "metrics device") := by
  have hparams := value_readDevice h
  have hrest : (Gateway.readDevice lib).value.2 = lib := (reading_rests.device lib hs).2 trivial
  rw [catalog, concurrentGroupCount, Action.value_bind, Action.value_bind, hparams, hrest]
  cases hgiven : dev.params? with
  | none => rfl
  | some params =>
    have hcount : params.concurrentGroupCount = dev.groupCount := by
      unfold Device.params? at hgiven
      split at hgiven
      · rw [← Option.some.inj hgiven]
      · cases hgiven
    have hvisit (i : Nat) : (readGroupEntry i lib).value.2 = lib := by
      rw [value_readGroupEntry h hs]
    have hgroups : (collect readGroupEntry 0 params.concurrentGroupCount lib).value =
        (dev.entries, lib) := by
      rw [value_collect_of_rests hvisit, hcount, Device.entries, placed, List.range_eq_range']
      congr 2
      funext i
      rw [value_readGroupEntry h hs]
    simp only [Action.value_bind, Action.value_pure, hgroups]
    rfl

end

end Library

/-! ## What a library shows -/

namespace Vendor

/-- What can be seen of a device: its parameters, and its entries. -/
def Device.sight (d : Device) : Option DeviceParams × List ConcurrentGroupEntry :=
  (d.params?, d.entries)

/-- What can be seen of the adapters: whether the group gives its parameters, and the records. -/
def AdapterGroup.sight (g : AdapterGroup) : Bool × List AdapterInfo :=
  (g.availability.take.1, g.infos)

/-- What is done with a set does not show if it does not show in its entry. -/
theorem Device.keeps_sight_seekSet {a : Nat} {id : MetricSetId} {m : Action MetricSet α}
    (hm : Keeps MetricSet.entryAt? m) : Keeps Device.sight (Device.seekSet a id m) := by
  have hgroup : Keeps ConcurrentGroup.entryAt? (ConcurrentGroup.seekSet a id m) := by
    refine keeps_seek hm fun g sets h => ?_
    funext i
    have hsets : placed g.setCount sets (fun s j => s.entryAt? ⟨i, j⟩) = g.setEntries i :=
      placed_of_map (fun entry j => entry ⟨i, j⟩) h
    simp only [ConcurrentGroup.entryAt?, ConcurrentGroup.setEntries, hsets]
    rfl
  refine obeys_map _ (keeps_seek hgroup fun d groups h => ?_)
  exact Prod.ext rfl (placed_of_map (fun entry => entry) h)

theorem Device.keeps_sight_readClocks (a : Nat) : Keeps Device.sight (Device.readClocks a) :=
  fun _ => rfl

theorem AdapterGroup.keeps_sight_holdAdapter {i : Nat} {m : Action Adapter α}
    (hm : Keeps Adapter.info? m) : Keeps AdapterGroup.sight (AdapterGroup.holdAdapter i m) :=
  keeps_hold hm fun _ _ h => Prod.ext rfl (placed_of_map (fun info => info) h)

theorem State.keeps_sight_onTree {n : Nat} {m : Action AdapterGroup α}
    (hm : Keeps AdapterGroup.sight m) : Keeps (fun v => v.latest.sight) (State.onTree n m) := by
  refine keeps_within hm fun v g h => ?_
  by_cases hn : n < v.earlier.length
  · simp [putTree, hn]
  · have htree : v.tree n = v.latest := by simp [tree, hn]
    rw [htree] at h
    simpa [putTree, hn] using h

end Vendor

namespace Library

/-- The library is open, stable, and serves what can be seen of an adapter group and of the device
of one of its adapters. -/
structure Shows (lib : Library) (group : AdapterGroup) (dev : Device) : Prop where
  stable : lib.Stable
  groupOpen : lib.groupOpen = true
  adapters : lib.vendor.latest.sight = group.sight
  device : ∃ a left, lib.Opened a left ∧ left.sight = dev.sight

/-- The records of the adapters have nothing to do with their devices. -/
theorem keeps_adapters_onAdapter (d : OpenDevice) (m : Action Device α) :
    Keeps (fun lib : Library => lib.vendor.latest.sight) (onAdapter d (Adapter.onDevice m)) := by
  have hadapter : Keeps Adapter.info? (Adapter.onDevice m) := fun _ => rfl
  have hstate := State.keeps_sight_onTree (n := d.tree)
    (AdapterGroup.keeps_sight_holdAdapter (i := d.adapter) hadapter)
  exact fun lib => hstate lib.vendor

section
variable {lib : Library} {group : AdapterGroup} {dev : Device} (h : lib.Shows group dev)
include h

/-- What is done with the device shows nothing but what shows of it. -/
theorem shows_onDevice {m : Nat → Action Device (Option α)} (hm : ∀ a, Keeps Device.sight (m a))
    (hstable : ∀ a, Leaves Device.Stable False (m a)) :
    (onDevice m lib).value.2.Shows group dev := by
  obtain ⟨a, left, hleft, hsight⟩ := h.device
  have hgroup : Keeps Library.groupOpen (onDevice m) := by
    refine obeys_bind (composes_keeps _) (obeys_get (composes_keeps _)) fun lib => ?_
    split
    · exact obeys_pure (composes_keeps _) _
    · exact obeys_map _ fun _ => rfl
  have hlatest : Keeps (fun lib : Library => lib.vendor.latest.sight) (onDevice m) := by
    refine obeys_bind (composes_keeps _) (obeys_get (composes_keeps _)) fun lib => ?_
    split
    · exact obeys_pure (composes_keeps _) _
    · exact obeys_map _ (keeps_adapters_onAdapter _ _)
  exact ⟨(leaves_onDevice hstable lib h.stable).1, (hgroup lib).trans h.groupOpen,
    (hlatest lib).trans h.adapters, a, _, opened_onDevice hleft m, (hm a left).trans hsight⟩

theorem shows_onSet (id : MetricSetId) {m : Nat → Action MetricSet (Option α)}
    (hm : ∀ a, Keeps MetricSet.entryAt? (m a))
    (hstable : ∀ a, Leaves MetricSet.Stable False (m a)) :
    (onSet id m lib).value.2.Shows group dev :=
  shows_onDevice h (fun a => obeys_map _ (Device.keeps_sight_seekSet (hm a)))
    fun a => leaves_map _ (Device.leaves_seekSet (hstable a))

theorem shows_activate (id : MetricSetId) : (activate id lib).value.2.Shows group dev := by
  have hset := shows_onSet h id (m := fun a => some <$> MetricSet.activate a id)
    (fun _ => obeys_map _ (keeps_respond fun _ _ => rfl))
    fun _ => leaves_map _ (MetricSet.leaves_activate _ _)
  exact hset

theorem shows_deactivate (id : MetricSetId) : (deactivate id lib).value.2.Shows group dev := by
  have hset := shows_onSet h id (m := fun a => some <$> MetricSet.deactivate a id)
    (fun _ => obeys_map _ (keeps_respond fun _ _ => rfl))
    fun _ => leaves_map _ (MetricSet.leaves_deactivate _ _)
  exact hset

theorem shows_readClocks : (readClocks lib).value.2.Shows group dev := by
  have hdevice := shows_onDevice h (m := fun a => some <$> Device.readClocks a)
    (fun a => obeys_map _ (Device.keeps_sight_readClocks a))
    fun a => leaves_map _ (Device.leaves_readClocks a)
  exact hdevice

end

end Library

/-! ## Until something is opened or closed -/

/-- The event opens or closes something, or unloads the library. -/
def Event.isHandling : Event → Bool
  | vendor (.openAdapters ..) | vendor (.openDevice ..) | vendor (.closeDevice ..)
  | vendor (.closeAdapters ..) | vendor .unload => true
  | _ => false

/-- Whatever is opened or closed is part of the lifecycle. -/
theorem Event.isLifecycle_of_isHandling {e : Event} (h : e.isHandling = true) :
    e.isLifecycle = true := by
  unfold isHandling at h
  split at h <;> first | rfl | cases h

/-- A sample opens and closes nothing. -/
theorem Cycle.not_isHandling {a : Nat} {cycles : List Cycle} {e : Event}
    (h : e ∈ Cycle.words a cycles) : e.isHandling = false := by
  obtain ⟨cycle, -, he⟩ := List.mem_flatMap.1 h
  cases cycle with
  | refused id code hcode =>
    obtain rfl := List.mem_singleton.1 he
    rfl
  | full id code hcode clock window ending =>
    simp only [word, List.mem_cons, List.not_mem_nil, or_false] at he
    rcases he with rfl | rfl | rfl | rfl <;> rfl

namespace Library

variable {lib : Library} {group : AdapterGroup} {dev : Device}

theorem mem_of_lifecycle {t u : Trace} {e : Event} (h : t.lifecycle = u) (he : e ∈ u) : e ∈ t := by
  rw [← h] at he
  exact (List.mem_filter.1 he).1

/-- Nothing of the trace opens or closes anything. -/
def Still (t : Trace) : Prop := ∀ e ∈ t, e.isHandling = false

theorem Still.false_of_mem {t : Trace} (h : Still t) {e : Event} (he : e ∈ t)
    (hhandling : e.isHandling = true) : False := by
  have hnot := h e he
  rw [hhandling] at hnot
  cases hnot

/-- A device is not opened where there is no adapter. -/
theorem openDevice_of_nobody {i : Nat} (hg : lib.groupOpen = true)
    (had : lib.vendor.latest.adapters[i]?.join = none) : (openDevice i lib).value.2 = lib := by
  have hlib : { lib with groupOpen := true } = lib := by rw [← hg]
  simpa [openDevice, onGroup, onVendor, State.onLatest, AdapterGroup.seekAdapter, hold, hg, had]
    using hlib

section
variable (h : lib.Shows group dev)
include h

/-- What only reads leaves the library as it is. -/
theorem shows_of_reading {m : Action Library α} (hm : Leaves Stable True m) :
    (m lib).value.2.Shows group dev := by
  rw [(hm lib h.stable).2 trivial]
  exact h

/-- An open group is not opened again. -/
theorem shows_openAdapters : (openAdapters lib).value.2.Shows group dev := by
  have hsame : (openAdapters lib).value.2 = lib := by
    cases hl : lib.loaded <;> simp [openAdapters, h.groupOpen, hl]
  rw [hsame]
  exact h

/-- A device that is opened shows in the trace. -/
theorem shows_openDevice {i : Nat} (hstill : Still (openDevice i lib).trace) :
    (openDevice i lib).value.2.Shows group dev := by
  cases had : lib.vendor.latest.adapters[i]?.join with
  | none =>
    rw [openDevice_of_nobody h.groupOpen had]
    exact h
  | some ad =>
    obtain ⟨code, given, hcall, -⟩ := openDevice_of_present h.groupOpen had
    exact (hstill.false_of_mem (mem_of_lifecycle hcall List.mem_cons_self) rfl).elim

/-- A device that is closed shows in the trace. -/
theorem not_still_closeDevice : ¬Still (closeDevice lib).trace := by
  intro hstill
  obtain ⟨a, left, hleft, -⟩ := h.device
  have hcall := closeDevice_of_opened hleft
  exact hstill.false_of_mem (mem_of_lifecycle hcall List.mem_cons_self) rfl

/-- A request that opens and closes nothing leaves all that shows. -/
theorem shows_perform (r : Gateway.Request) (hstill : Still (Gateway.perform r lib).trace) :
    (Gateway.perform r lib).value.2.Shows group dev := by
  cases r with
  | openAdapters => exact shows_openAdapters h
  | openDevice i => exact shows_openDevice h hstill
  | activate id => exact shows_activate h id
  | deactivate id => exact shows_deactivate h id
  | readClocks => exact shows_readClocks h
  | closeDevice => exact (not_still_closeDevice h hstill).elim
  | closeAdapters =>
    have hstill : Still (closeAdapters lib).trace := hstill
    rw [closeAdapters_of_open h.groupOpen] at hstill
    exact (hstill.false_of_mem List.mem_cons_self rfl).elim
  | unload =>
    -- an unloading begins with the closing of the device
    have hstill : Still (unload lib).trace := hstill
    rw [unload, Action.trace_bind] at hstill
    exact (not_still_closeDevice h fun e he => hstill e (List.mem_append_left _ he)).elim
  | readAdapterGroup => exact shows_of_reading h leaves_readAdapterGroup
  | readAdapter i => exact shows_of_reading h (leaves_readAdapter i)
  | readDevice => exact shows_of_reading h leaves_readDevice
  | readConcurrentGroup g => exact shows_of_reading h (leaves_readConcurrentGroup g)
  | readMetricSet id => exact shows_of_reading h (leaves_readMetricSet id)
  | readMetric id i => exact shows_of_reading h (leaves_readMetric id i)

end

/-! ## From the start on -/

/-- What is left of the library when a device is opened. -/
theorem left_openDevice {i : Nat} (hg : lib.groupOpen = true)
    (hok : (openDevice i lib).value.1 = .ok ()) :
    (openDevice i lib).value.2 =
      { lib with
        vendor := (State.onLatest (AdapterGroup.seekAdapter i (Adapter.openDevice i))
          lib.vendor).value.2
        device := some ⟨lib.vendor.newest, i⟩ } := by
  have hseek : (onGroup (AdapterGroup.seekAdapter i (Adapter.openDevice i)) lib).value =
      ((State.onLatest (AdapterGroup.seekAdapter i (Adapter.openDevice i)) lib.vendor).value.1,
        { lib with vendor := (State.onLatest (AdapterGroup.seekAdapter i (Adapter.openDevice i))
          lib.vendor).value.2 }) := by
    simp [onGroup, onVendor, hg]
  rw [openDevice, Action.value_bind, hseek] at hok ⊢
  cases hr : (State.onLatest (AdapterGroup.seekAdapter i (Adapter.openDevice i))
      lib.vendor).value.1 with
  | none => simp [hr] at hok
  | some r =>
    cases hgiven : handedOut r with
    | error code => simp [hr, hgiven] at hok
    | ok _ =>
      simp [hgiven]
      rfl

/-- A device that is opened is that of the adapter, and nothing else shows a difference. -/
theorem shows_of_opened {i : Nat} {ad : Adapter} (hgroup : lib.GroupOpened group)
    (hs : lib.Stable) (had : group.adapters[i]?.join = some ad)
    (hok : (openDevice i lib).value.1 = .ok ()) :
    (openDevice i lib).value.2.Shows group ad.device := by
  have hleft := left_openDevice hgroup.groupOpen hok
  -- an opening uses up a code of the adapter
  have hadapter : Keeps Adapter.info? (Adapter.openDevice i) := fun _ => rfl
  have hlatest := AdapterGroup.keeps_sight_holdAdapter (i := i) hadapter lib.vendor.latest
  have hchild : (AdapterGroup.holdAdapter i (Adapter.openDevice i)
      lib.vendor.latest).value.2.adapters[i]?.join = some (Adapter.openDevice i ad).value.2 := by
    refine (child_hold (fun _ _ => rfl) i (Adapter.openDevice i) lib.vendor.latest).trans ?_
    rw [hgroup.latest, had]
    rfl
  refine ⟨(obeys_openDevice handling_stable i lib hs).1, ?_, ?_, i, ad.device,
    ⟨lib.vendor.newest, (Adapter.openDevice i ad).value.2, ?_, ?_, rfl⟩, rfl⟩
  · rw [hleft]
    exact hgroup.groupOpen
  · rw [hleft]
    exact hlatest.trans (congrArg AdapterGroup.sight hgroup.latest)
  · rw [hleft]
  · rw [hleft]
    have htree := State.tree_newest
      (State.onLatest (AdapterGroup.seekAdapter i (Adapter.openDevice i)) lib.vendor).value.2
    exact (congrArg (fun g : AdapterGroup => g.adapters[i]?.join) htree).trans hchild

end Library

namespace Session

variable {group : AdapterGroup} {dev : Device}

/-- Until something is opened or closed, a session leaves all that its library shows. -/
theorem obeying_shows : ObeyingAll fun (s : Session Library) t s' =>
    Library.Still t → s.gateway.Shows group dev → s'.gateway.Shows group dev where
  composes := by
    refine ⟨fun _ _ h => h, fun h h' hstill hs => h' (fun e he => ?_) (h (fun e he => ?_) hs)⟩
    · exact hstill e (List.mem_append_right _ he)
    · exact hstill e (List.mem_append_left _ he)
  logging _ _ _ _ h := h
  waiting _ _ _ h := h
  request r g s hs hstill h := by
    subst hs
    exact Library.shows_perform h r hstill
  settling s s' hg _ _ h := by
    rw [hg]
    exact h
  noting s s' hg _ h := by
    rw [hg]
    exact h

/-- A session in use that is not released by a history shows after it what it shows before. -/
theorem shows_performAll {a : Nat} {s : Session Library} (h : InUse a s)
    (hshows : s.gateway.Shows group dev) (ops : List Operation)
    (hopen : (performAll ops s).value.2.released = false) :
    (performAll ops s).value.2.gateway.Shows group dev := by
  obtain ⟨cycles, ⟨-, htrace, -⟩ | ⟨hover, -⟩⟩ := (performAll_advances a ops s).whenInUse h
  · -- all of the lifecycle in the history is cycles of samples
    have hstill : Library.Still (performAll ops s).trace := by
      intro e he
      cases hhandling : e.isHandling with
      | false => rfl
      | true =>
        have hmem : e ∈ (performAll ops s).trace.lifecycle :=
          List.mem_filter.2 ⟨he, Event.isLifecycle_of_isHandling hhandling⟩
        rw [htrace] at hmem
        rw [← hhandling, Cycle.not_isHandling hmem]
    exact obeys_history obeying_shows.composes (obeys_perform obeying_shows) ops s hstill hshows
  · rw [hover.released] at hopen
    cases hopen

/-- A session that has started shows the adapters of the script, and the device of the first one of
Intel. -/
theorem shows_start {lib : Library} {s : Session Library} (hl : lib.loaded = true)
    (hg : lib.groupOpen = false) (hd : lib.device = none) (hs : lib.Stable)
    (hstart : (start lib).value = .ok s) :
    lib.vendor.script.group.availability = .always ∧
      ∃ i ad, lib.vendor.script.group.FirstIntelAt i ad ∧
        s.gateway.Shows lib.vendor.script.group ad.device := by
  have hopening := openAll_of_start hstart
  cases starts_start hl hg hd hs with
  | groupRefused _ _ hresult => exact absurd (hresult.symm.trans hstart) nofun
  | groupUnread _ _ hresult => exact absurd (hresult.symm.trans hstart) nofun
  | noIntel _ _ _ hresult => exact absurd (hresult.symm.trans hstart) nofun
  | deviceRefused _ _ _ _ _ _ _ hresult => exact absurd (hresult.symm.trans hstart) nofun
  | opened i ad _ hgroup hread hfirst =>
    obtain ⟨opened, params, hopened, hstill, hvalue, -⟩ := openAll_of_given hl hg hs hgroup hread
    have hlist := Library.value_listAdapters hopened hstill (hs.script.1.take_iff.2 hread)
    rw [hvalue] at hopening
    rcases AdapterGroup.find?_infos hs.script with ⟨-, hno⟩ | ⟨j, chosen, hchosen, hfind⟩
    · exact absurd hfirst.toIntelAt (hno i ad)
    · -- the group is listed as it is, and the device of the chosen adapter is opened
      have hsome : (listAdapters opened.gateway).value.1.find? AdapterInfo.isIntel =
          some (chosen.info j) := by
        rw [hlist]
        exact hfind
      obtain ⟨listed, hlisted, hintel, -⟩ := openIntel_of_some params hsome
      have hsame : listed = opened := by rw [hlisted, hlist]
      rw [hintel, hsame] at hopening
      refine ⟨hread, j, chosen, hchosen, ?_⟩
      cases hcall : (Library.openDevice (chosen.info j).index opened.gateway).value.1 with
      | error code =>
        rw [(openDevice_error hcall).1] at hopening
        cases hopening
      | ok _ =>
        rw [(openDevice_ok hcall).1] at hopening
        obtain ⟨-, rfl⟩ := Prod.mk.inj hopening
        exact Library.shows_of_opened hopened hstill hchosen.there hcall

/-! ## Sessions over a tree -/

/-- The session is in use over a stable tree: a library that serves the tree was loaded, a session
was started on it, and it was not released by any of the operations since. The device is that of the
first adapter of Intel, which the session has open. -/
structure OpenOver (s : Session Library) (group : AdapterGroup) (dev : Device) : Prop where
  stable : group.Stable
  device : ∃ i ad, group.FirstIntelAt i ad ∧ ad.device = dev
  reached : ∃ loader candidates lib s₀ ops, (Library.load loader candidates).value = .ok lib ∧
    lib.vendor.script.group = group ∧ (start lib).value = .ok s₀ ∧ s = (performAll ops s₀).value.2
  inUse : s.released = false

section
variable {s : Session Library} (h : s.OpenOver group dev)
include h

theorem OpenOver.shows : group.availability = .always ∧ s.gateway.Shows group dev := by
  obtain ⟨loader, candidates, lib, s₀, ops, hload, rfl, hstart, rfl⟩ := h.reached
  obtain ⟨a, hinUse, -⟩ := inUse_of_start hload hstart
  obtain ⟨path, script, rfl⟩ := Library.loaded_of_load hload
  have hlib : Library.Stable { path, vendor := .fresh script } := State.stable_fresh h.stable
  obtain ⟨hread, i, ad, hfirst, hshows⟩ := shows_start rfl rfl rfl hlib hstart
  obtain ⟨j, ad', hfirst', hdev⟩ := h.device
  obtain rfl := hfirst.unique hfirst'
  rw [hdev] at hshows
  exact ⟨hread, shows_performAll hinUse hshows ops h.inUse⟩

theorem OpenOver.adapters : (Session.adapters s).value.1 = group.infos := by
  obtain ⟨hread, hshows⟩ := h.shows
  obtain ⟨hsame, hinfos⟩ := Prod.mk.inj hshows.adapters
  have hgiven : s.gateway.vendor.latest.availability.take.1 = true := by
    rw [hsame, hread]
    rfl
  have hlist := Library.value_listAdapters ⟨hshows.groupOpen, rfl⟩ hshows.stable hgiven
  show (listAdapters s.gateway).value.1 = _
  rw [hlist]
  exact hinfos

theorem OpenOver.catalog : (Session.catalog s).value.1 =
    if dev.params?.isSome then .ok dev.entries else .error (.missingParams "metrics device") := by
  obtain ⟨-, hshows⟩ := h.shows
  obtain ⟨a, left, hleft, hsight⟩ := hshows.device
  obtain ⟨hparams, hentries⟩ := Prod.mk.inj hsight
  show (GpuMonitor.catalog s.gateway).value.1 = _
  rw [Library.value_catalog hleft hshows.stable, hparams, hentries]

theorem OpenOver.readMetricSet {e : ConcurrentGroupEntry} (he : e ∈ dev.entries)
    {set : MetricSetEntry} (hset : set ∈ e.sets) :
    (Gateway.readMetricSet set.id s.gateway).value.1 = some set.params := by
  obtain ⟨-, hshows⟩ := h.shows
  obtain ⟨a, left, hleft, hsight⟩ := hshows.device
  obtain ⟨-, hentries⟩ := Prod.mk.inj hsight
  rw [Library.value_readMetricSet hleft]
  exact Device.params_of_mem_entries (hentries ▸ he) hset

/-- Catalogs differ as the entries of the devices do. -/
theorem OpenOver.catalog_of_entries {s' : Session Library} {group' : AdapterGroup} {dev' : Device}
    (h' : s'.OpenOver group' dev') {ω : Type} {F F' : List ConcurrentGroupEntry → ω}
    (hparams : dev'.params?.isSome = dev.params?.isSome)
    (hentries : F' dev'.entries = F dev.entries) :
    (Session.catalog s').value.1.map F' = (Session.catalog s).value.1.map F := by
  rw [h.catalog, h'.catalog, hparams]
  split
  · exact congrArg Except.ok hentries
  · rfl

end

/--
**What a session lists.** Let a session be in use over a stable tree, after any history; its counts
may be any numbers.

* Its adapters are those of the tree as `AdapterGroup.ListedAs` says: those below the reported count
  that are there and give their parameters, each with its place, in the order of the places.
* Its catalog is had if and only if the device gives its parameters. It consists of the entries of
  the groups, each with the entries of its sets, each with the parameters of its metrics, in the
  same way (`Device.ListedAs`). The parameters of a set are those that are read of it by its
  identifier.
* On a tree with other counts that reach the same children, such as any that are raised from the
  number of children or more, nothing is different but the counts that are copied.
* On a tree in which an object is null, its own record is missing with all below it; the others are
  there as before, under the same identifiers.
-/
theorem catalog_exact {s : Session Library} (h : s.OpenOver group dev) :
    (∀ infos, (Session.adapters s).value.1 = infos ↔ group.ListedAs infos) ∧
    (∀ entries, (Session.catalog s).value.1 = .ok entries ↔
      dev.params?.isSome = true ∧ dev.ListedAs entries) ∧
    (dev.params?.isSome = true → ∃ entries, (Session.catalog s).value.1 = .ok entries ∧
      ∀ e ∈ entries, ∀ set ∈ e.sets,
        (Gateway.readMetricSet set.id s.gateway).value.1 = some set.params) ∧
    (dev.params?.isSome = false →
      (Session.catalog s).value.1 = .error (.missingParams "metrics device")) ∧
    (∀ group' dev' s', s'.OpenOver group' dev' → group.Raised group' →
      (Session.adapters s').value.1 = (Session.adapters s).value.1 ∧
      (Session.catalog s').value.1.map (List.map ConcurrentGroupEntry.uncounted) =
        (Session.catalog s).value.1.map (List.map ConcurrentGroupEntry.uncounted)) ∧
    (∀ i dev' s', s'.OpenOver (group.withoutAdapter i) dev' →
      (Session.adapters s').value.1 =
        (Session.adapters s).value.1.filter fun info => info.index != i) ∧
    (∀ i group' s', s'.OpenOver group' (dev.withoutGroup i) →
      (Session.catalog s').value.1 =
        (Session.catalog s).value.1.map (List.filter fun e => e.index != i)) ∧
    (∀ id group' s', s'.OpenOver group' (dev.withoutSet id) →
      (Session.catalog s').value.1 =
        (Session.catalog s).value.1.map (List.map (ConcurrentGroupEntry.withoutSet id))) ∧
    (∀ id set m group' s', dev.metricSet? id = some set →
      s'.OpenOver group' (dev.withoutMetric id m) →
      (Session.catalog s').value.1 = (Session.catalog s).value.1.map
        (List.map (ConcurrentGroupEntry.withMetrics id (set.metricsWithout m)))) := by
  have hmap (x : Except Failure (List ConcurrentGroupEntry)) :
      x.map (fun entries => entries) = x := by
    cases x <;> rfl
  refine ⟨fun infos => ?_, fun entries => ?_, fun hread => ⟨dev.entries, ?_, ?_⟩, fun hread => ?_,
    fun group' dev' s' h' hraised => ⟨?_, ?_⟩, fun i dev' s' h' => ?_, fun i group' s' h' => ?_,
    fun id group' s' h' => ?_, fun id set m group' s' hset h' => ?_⟩
  · rw [h.adapters, AdapterGroup.listedAs_iff]
    exact eq_comm
  · rw [h.catalog, Device.listedAs_iff]
    split
    · next hread => simp [hread, eq_comm]
    · next hread => simp [hread]
  · rw [h.catalog, if_pos hread]
  · exact fun e he set hset => h.readMetricSet he hset
  · rw [h.catalog, hread]
    rfl
  · rw [h.adapters, h'.adapters, hraised.infos]
  · -- the device is that of the same adapter, and so it differs in counts only
    obtain ⟨i, ad, hfirst, rfl⟩ := h.device
    obtain ⟨j, ad', hfirst', rfl⟩ := h'.device
    obtain ⟨ad'', hfirst'', hdevice⟩ := hraised.firstIntelAt hfirst
    obtain rfl := hfirst'.unique hfirst''
    exact h.catalog_of_entries h' hdevice.isSome_params? hdevice.entries
  · rw [h.adapters, h'.adapters, AdapterGroup.infos_withoutAdapter]
  · rw [← hmap (Session.catalog s').value.1]
    exact h.catalog_of_entries h' rfl (dev.entries_withoutGroup i)
  · rw [← hmap (Session.catalog s').value.1]
    exact h.catalog_of_entries h' rfl (dev.entries_withoutSet id)
  · rw [← hmap (Session.catalog s').value.1]
    exact h.catalog_of_entries h' rfl (Device.entries_withoutMetric hset m)

/-- The tree of `patchy`, with a device in place of that of its adapter. -/
def patchyWith (dev : Device) : AdapterGroup :=
  { Script.patchy.group with
    adapters := [none, some Script.patchy.foreign, some Script.patchy.unread,
      some { Script.patchy.adapter with device := dev }] }

/-- The adapter of Intel is the fourth one, whatever its device is. -/
theorem firstIntelAt_patchyWith (dev : Device) :
    (patchyWith dev).FirstIntelAt 3 { Script.patchy.adapter with device := dev } := by
  refine ⟨⟨Nat.lt_of_sub_eq_succ rfl, rfl, rfl, rfl⟩, fun j hj b hb => ?_⟩
  -- one is null, one is of another vendor, and one is not available
  have hthere := hb.there
  match j with
  | 0 => cases hthere
  | 1 =>
    obtain rfl := Option.some.inj hthere
    exact absurd hb.vendor (by decide)
  | 2 =>
    obtain rfl := Option.some.inj hthere
    exact absurd hb.available (by decide)

/-- A library that serves that tree. -/
def ofPatchyWith (dev : Device) : Library :=
  { path := ⟨[]⟩, vendor := .fresh { group := patchyWith dev } }

/-- A session that was started on it. -/
def onPatchyWith (dev : Device) : Session Library :=
  (openAll { gateway := ofPatchyWith dev }).value.2

theorem openOver_patchyWith {dev : Device} (hs : (patchyWith dev).Stable)
    (hopen : (openAll { gateway := ofPatchyWith dev }).value.1 = .ok ()) (ops : List Operation)
    (hin : (performAll ops (onPatchyWith dev)).value.2.released = false) :
    (performAll ops (onPatchyWith dev)).value.2.OpenOver (patchyWith dev) dev where
  stable := hs
  device := ⟨3, _, firstIntelAt_patchyWith dev, rfl⟩
  reached := by
    have hload : (Library.load (fun _ => .opens { group := patchyWith dev }) [⟨[]⟩]).value =
        .ok (ofPatchyWith dev) := rfl
    exact ⟨_, _, _, onPatchyWith dev, ops, hload, rfl, (start_ok hopen).1, rfl⟩
  inUse := hin

/-- A session over `patchy` lists one set with three metrics. Over the tree with the last of them
null, after a sample, the other two are left. -/
theorem catalog_exact_patchy :
    let dev := Script.patchy.adapter.device
    let dev' := dev.withoutMetric ⟨1, 1⟩ 4
    let s := (performAll [.select] (onPatchyWith dev)).value.2
    let s' := (performAll [.select, .sample] (onPatchyWith dev')).value.2
    let unnamed : MetricParams := ⟨none, none, none⟩
    let util : MetricParams := ⟨some "VideoUtil", none, none⟩
    let busy : MetricParams := ⟨some "RenderBusy", none, none⟩
    let listed (metrics : List MetricParams) : List ConcurrentGroupEntry :=
      [⟨1, ⟨none, none, 9⟩, [⟨⟨1, 1⟩, ⟨none, none, 9⟩, metrics⟩]⟩]
    s.OpenOver (patchyWith dev) dev ∧ s'.OpenOver (patchyWith dev') dev' ∧
    dev.ListedAs (listed [unnamed, util, busy]) ∧
    (Session.catalog s').value.1 = .ok (listed [unnamed, util]) := by
  intro dev dev' s s' unnamed util busy listed
  have h : s.OpenOver (patchyWith dev) dev :=
    openOver_patchyWith (by decide) (by decide +kernel) [.select] (by decide +kernel)
  have h' : s'.OpenOver (patchyWith dev') dev' :=
    openOver_patchyWith (by decide) (by decide +kernel) [.select, .sample] (by decide +kernel)
  obtain ⟨-, hlisted, -, -, -, -, -, -, hnull⟩ := catalog_exact h
  have hcatalog : (Session.catalog s).value.1 = .ok (listed [unnamed, util, busy]) := by
    decide +kernel
  refine ⟨h, h', ((hlisted _).1 hcatalog).2, ?_⟩
  rw [hnull ⟨1, 1⟩ Script.patchy.set 4 _ s' rfl h', hcatalog]
  decide +kernel

end Session
end GpuMonitor
