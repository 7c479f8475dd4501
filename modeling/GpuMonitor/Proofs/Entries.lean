import GpuMonitor.Proofs.Opening
import GpuMonitor.Proofs.Places
import GpuMonitor.Proofs.Served

/-!
# The entries of a tree

What a tree comes to when it is listed, told from the tree alone. At each level the children stand
at places; a child may be null, may not give its parameters, and the reported count may be any
number.

* `MetricSet.ListedAs`, `ConcurrentGroup.ListedAs`, `Device.ListedAs`, `AdapterGroup.ListedAs`:
  the entries of each level.
* `MetricSet.entryAt?`, `ConcurrentGroup.entryAt?`, `Device.entries`, `AdapterGroup.infos`: the
  entries, computed.
* `Raised`: trees that differ in nothing but counts that reach the same children. Their entries
  differ in no more than the counts that were copied (`Device.Raised.entries`).
* `withoutAdapter`, `withoutGroup`, `withoutSet`, `withoutMetric`: an object replaced by null, and
  what becomes of the entries.
-/

namespace GpuMonitor

open Vendor

/-! ## The entries of a tree -/

/-- The entry without the counts that are copied from parameters. -/
def MetricSetEntry.uncounted (e : MetricSetEntry) : MetricSetEntry :=
  { e with params := { e.params with metricCount := 0 } }

/-- The entry without the counts that are copied from parameters. -/
def ConcurrentGroupEntry.uncounted (e : ConcurrentGroupEntry) : ConcurrentGroupEntry :=
  { e with
    params := { e.params with metricSetCount := 0 }
    sets := e.sets.map MetricSetEntry.uncounted }

namespace Vendor

namespace MetricSet

/-- The parameters of a metric set, if it gives them. -/
def params? (s : MetricSet) : Option MetricSetParams :=
  if s.availability.take.1 then some ⟨s.symbolName.copy, s.shortName.copy, s.metricCount⟩ else none

/-- The parameters of the metrics below the reported count, each with its place. -/
def placedMetrics (s : MetricSet) : List (Nat × MetricParams) :=
  placed s.metricCount s.metrics fun m i => m.params?.map (i, ·)

/-- The entry of a metric set, if it gives its parameters. -/
def entryAt? (s : MetricSet) (id : MetricSetId) : Option MetricSetEntry :=
  s.params?.map fun params => { id, params, metrics := s.placedMetrics.map Prod.snd }

/-- The entry names the place of the set and has its parameters, with those of its metrics. -/
structure ListedAs (s : MetricSet) (id : MetricSetId) (e : MetricSetEntry) : Prop where
  id : e.id = id
  params : s.params? = some e.params
  metrics : Lists s.metricCount s.metrics (fun m _ p => m.params? = some p) e.metrics

end MetricSet

namespace ConcurrentGroup

/-- The parameters of a concurrent group, if it gives them. -/
def params? (g : ConcurrentGroup) : Option ConcurrentGroupParams :=
  if g.availability.take.1 then some ⟨g.symbolName.copy, g.description.copy, g.setCount⟩ else none

/-- The entries of the sets below the reported count, when the group stands at a place. -/
def setEntries (g : ConcurrentGroup) (i : Nat) : List MetricSetEntry :=
  placed g.setCount g.sets fun s j => s.entryAt? ⟨i, j⟩

/-- The entry of a concurrent group, if it gives its parameters. -/
def entryAt? (g : ConcurrentGroup) (i : Nat) : Option ConcurrentGroupEntry :=
  g.params?.map fun params => { index := i, params, sets := g.setEntries i }

/-- The entry names the place of the group and has its parameters, with the entries of its sets. -/
structure ListedAs (g : ConcurrentGroup) (i : Nat) (e : ConcurrentGroupEntry) : Prop where
  index : e.index = i
  params : g.params? = some e.params
  sets : Lists g.setCount g.sets (fun s j e => s.ListedAs ⟨i, j⟩ e) e.sets

end ConcurrentGroup

namespace Device

/-- The parameters of a device, if it gives them. -/
def params? (d : Device) : Option DeviceParams :=
  if d.availability.take.1 then some ⟨d.name.copy, d.groupCount⟩ else none

/-- The entries of the concurrent groups below the reported count. -/
def entries (d : Device) : List ConcurrentGroupEntry :=
  placed d.groupCount d.groups ConcurrentGroup.entryAt?

/-- The entries are those of the concurrent groups. -/
def ListedAs (d : Device) (entries : List ConcurrentGroupEntry) : Prop :=
  Lists d.groupCount d.groups ConcurrentGroup.ListedAs entries

end Device

/-- The record of an adapter that stands at a place, if it gives its parameters. -/
def Adapter.info? (a : Adapter) (i : Nat) : Option AdapterInfo :=
  if a.availability.take.1 then some (a.info i) else none

/-- The records are those of the adapters. -/
def AdapterGroup.ListedAs (g : AdapterGroup) (infos : List AdapterInfo) : Prop :=
  Lists g.adapterCount g.adapters (fun a i info => a.info? i = some info) infos

/-! ### What they are computed to be -/

theorem MetricSet.map_snd_placedMetrics (s : MetricSet) :
    s.placedMetrics.map Prod.snd = placed s.metricCount s.metrics fun m _ => m.params? := by
  rw [placedMetrics, map_placed]
  refine placed_congr fun i => ?_
  simp only [Option.map_map]
  congr 1
  funext m
  cases m.params? <;> rfl

theorem MetricSet.listedAs_iff {s : MetricSet} {id : MetricSetId} {e : MetricSetEntry} :
    s.ListedAs id e ↔ s.entryAt? id = some e := by
  have hmetrics (records : List MetricParams) :
      Lists s.metricCount s.metrics (fun m _ p => m.params? = some p) records ↔
        records = s.placedMetrics.map Prod.snd := by
    rw [map_snd_placedMetrics]
    exact lists_iff fun _ _ _ => Iff.rfl
  rw [entryAt?, Option.map_eq_some_iff]
  constructor
  · rintro ⟨rfl, hparams, hlist⟩
    refine ⟨e.params, hparams, ?_⟩
    rw [← (hmetrics _).1 hlist]
  · rintro ⟨params, hparams, rfl⟩
    exact ⟨rfl, hparams, (hmetrics _).2 rfl⟩

theorem ConcurrentGroup.listedAs_iff {g : ConcurrentGroup} {i : Nat} {e : ConcurrentGroupEntry} :
    g.ListedAs i e ↔ g.entryAt? i = some e := by
  have hsets (records : List MetricSetEntry) :
      Lists g.setCount g.sets (fun s j e => s.ListedAs ⟨i, j⟩ e) records ↔
        records = g.setEntries i := by
    refine lists_iff ?_
    exact fun _ _ _ => MetricSet.listedAs_iff
  rw [entryAt?, Option.map_eq_some_iff]
  constructor
  · rintro ⟨rfl, hparams, hlist⟩
    refine ⟨e.params, hparams, ?_⟩
    rw [← (hsets _).1 hlist]
  · rintro ⟨params, hparams, rfl⟩
    exact ⟨rfl, hparams, (hsets _).2 rfl⟩

theorem Device.listedAs_iff {d : Device} {entries : List ConcurrentGroupEntry} :
    d.ListedAs entries ↔ entries = d.entries := by
  refine lists_iff ?_
  exact fun _ _ _ => ConcurrentGroup.listedAs_iff

theorem AdapterGroup.listedAs_iff {g : AdapterGroup} {infos : List AdapterInfo} :
    g.ListedAs infos ↔ infos = g.infos := lists_iff fun _ _ _ => Iff.rfl

/-! ### The identifiers of the entries -/

theorem MetricSet.id_of_entryAt? {s : MetricSet} {id : MetricSetId} {e : MetricSetEntry}
    (h : s.entryAt? id = some e) : e.id = id := (listedAs_iff.2 h).id

theorem ConcurrentGroup.index_of_entryAt? {g : ConcurrentGroup} {i : Nat} {e : ConcurrentGroupEntry}
    (h : g.entryAt? i = some e) : e.index = i := (listedAs_iff.2 h).index

theorem ConcurrentGroup.mem_setEntries {g : ConcurrentGroup} {i : Nat} {e : MetricSetEntry} :
    e ∈ g.setEntries i ↔
      ∃ j s, j < g.setCount ∧ g.sets[j]?.join = some s ∧ s.entryAt? ⟨i, j⟩ = some e := mem_placed

theorem ConcurrentGroup.group_of_mem_setEntries {g : ConcurrentGroup} {i : Nat}
    {e : MetricSetEntry} (h : e ∈ g.setEntries i) : e.id.group = i := by
  obtain ⟨j, s, -, -, hs⟩ := mem_setEntries.1 h
  rw [MetricSet.id_of_entryAt? hs]

theorem ConcurrentGroup.sets_of_entryAt? {g : ConcurrentGroup} {i : Nat} {e : ConcurrentGroupEntry}
    (h : g.entryAt? i = some e) : e.sets = g.setEntries i := by
  obtain ⟨params, -, rfl⟩ := Option.map_eq_some_iff.1 h
  rfl

/-- The parameters in an entry are those of the set that its identifier names. -/
theorem Device.params_of_mem_entries {d : Device} {e : ConcurrentGroupEntry} (he : e ∈ d.entries)
    {s : MetricSetEntry} (hs : s ∈ e.sets) :
    (d.metricSet? s.id).bind MetricSet.params? = some s.params := by
  obtain ⟨i, g, -, hg, hentry⟩ := mem_placed.1 he
  rw [ConcurrentGroup.sets_of_entryAt? hentry] at hs
  obtain ⟨j, set, -, hset, hlisted⟩ := ConcurrentGroup.mem_setEntries.1 hs
  have hset' : d.metricSet? ⟨i, j⟩ = some set := by
    rw [metricSet?, hg]
    exact hset
  rw [MetricSet.id_of_entryAt? hlisted, hset', Option.bind_some]
  exact (MetricSet.listedAs_iff.2 hlisted).params

theorem Adapter.index_of_info? {a : Adapter} {i : Nat} {info : AdapterInfo}
    (h : a.info? i = some info) : info.index = i := by
  unfold info? at h
  split at h
  · obtain rfl := Option.some.inj h
    rfl
  · cases h

/-! ## Reported counts -/

/-- The metric sets differ in nothing but counts that reach the same metrics. -/
def MetricSet.Raised (s s' : MetricSet) : Prop :=
  ∃ n, AlikeCounts s.metrics.length s.metricCount n ∧ s' = { s with metricCount := n }

/-- The concurrent groups differ in nothing but counts that reach the same children. -/
def ConcurrentGroup.Raised (g g' : ConcurrentGroup) : Prop :=
  ∃ n sets, AlikeCounts g.sets.length g.setCount n ∧
    List.Forall₂ (Option.Rel MetricSet.Raised) g.sets sets ∧ g' = { g with setCount := n, sets }

/-- The devices differ in nothing but counts that reach the same children. -/
def Device.Raised (d d' : Device) : Prop :=
  ∃ n groups, AlikeCounts d.groups.length d.groupCount n ∧
    List.Forall₂ (Option.Rel ConcurrentGroup.Raised) d.groups groups ∧
    d' = { d with groupCount := n, groups }

/-- The adapters differ in nothing but counts that reach the same children. -/
def Adapter.Raised (a a' : Adapter) : Prop :=
  ∃ device, a.device.Raised device ∧ a' = { a with device }

/-- The trees differ in nothing but counts that reach the same children. -/
def AdapterGroup.Raised (g g' : AdapterGroup) : Prop :=
  ∃ n adapters, AlikeCounts g.adapters.length g.adapterCount n ∧
    List.Forall₂ (Option.Rel Adapter.Raised) g.adapters adapters ∧
    g' = { g with adapterCount := n, adapters }

theorem MetricSet.Raised.entryAt? {s s' : MetricSet} (h : s.Raised s') (id : MetricSetId) :
    (s'.entryAt? id).map MetricSetEntry.uncounted =
      (s.entryAt? id).map MetricSetEntry.uncounted := by
  obtain ⟨n, hn, rfl⟩ := h
  have hmetrics : placed n s.metrics (fun m i => m.params?.map (i, ·)) = s.placedMetrics :=
    placed_of_alike hn
  simp only [MetricSet.entryAt?, params?, placedMetrics, Option.map_map]
  split
  · simp [MetricSetEntry.uncounted, hmetrics, placedMetrics]
  · rfl

theorem ConcurrentGroup.Raised.entryAt? {g g' : ConcurrentGroup} (h : g.Raised g') (i : Nat) :
    (g'.entryAt? i).map ConcurrentGroupEntry.uncounted =
      (g.entryAt? i).map ConcurrentGroupEntry.uncounted := by
  obtain ⟨n, sets, hn, hsets, rfl⟩ := h
  have hentries : (placed n sets fun s j => s.entryAt? ⟨i, j⟩).map MetricSetEntry.uncounted =
      (g.setEntries i).map MetricSetEntry.uncounted := by
    rw [hsets.length_eq] at hn
    rw [setEntries, placed_of_alike hn, map_placed, map_placed]
    exact placed_of_rel hsets fun s s' j hs => hs.entryAt? ⟨i, j⟩
  simp only [ConcurrentGroup.entryAt?, params?, setEntries, Option.map_map]
  split
  · simp [ConcurrentGroupEntry.uncounted, hentries, setEntries]
  · rfl

/-- The entries differ in no more than the counts that were copied. -/
theorem Device.Raised.entries {d d' : Device} (h : d.Raised d') :
    d'.entries.map ConcurrentGroupEntry.uncounted =
      d.entries.map ConcurrentGroupEntry.uncounted := by
  obtain ⟨n, groups, hn, hgroups, rfl⟩ := h
  rw [hgroups.length_eq] at hn
  rw [Device.entries, Device.entries, placed_of_alike hn, map_placed, map_placed]
  exact placed_of_rel hgroups fun g g' i hg => hg.entryAt? i

theorem Device.Raised.isSome_params? {d d' : Device} (h : d.Raised d') :
    d'.params?.isSome = d.params?.isSome := by
  obtain ⟨n, groups, -, -, rfl⟩ := h
  unfold params?
  split <;> rfl

namespace AdapterGroup

variable {g g' : AdapterGroup}

/-- The records are the very same. -/
theorem Raised.infos (h : g.Raised g') : g'.infos = g.infos := by
  obtain ⟨n, adapters, hn, hadapters, rfl⟩ := h
  rw [hadapters.length_eq] at hn
  show placed n adapters Adapter.info? = placed g.adapterCount g.adapters Adapter.info?
  rw [placed_of_alike hn]
  refine placed_of_rel hadapters fun a a' i ha => ?_
  obtain ⟨device, -, rfl⟩ := ha
  rfl

theorem Raised.intelAt (h : g.Raised g') {i : Nat} {a : Adapter} (ha : g.IntelAt i a) :
    ∃ a', g'.IntelAt i a' ∧ a.Raised a' := by
  obtain ⟨n, adapters, hn, hadapters, rfl⟩ := h
  have hi : i < g.adapters.length := by
    by_contra hle
    have hnone := ha.there
    rw [List.getElem?_eq_none (Nat.le_of_not_lt hle)] at hnone
    cases hnone
  have hrel := rel_child hadapters i
  rw [ha.there] at hrel
  cases hthere : adapters[i]?.join with
  | none =>
    rw [hthere] at hrel
    cases hrel
  | some a' =>
    rw [hthere] at hrel
    cases hrel with
    | some hr =>
      obtain ⟨device, hdevice, rfl⟩ := hr
      exact ⟨_, ⟨(hn.lt_iff hi).2 ha.reported, hthere, ha.available, ha.vendor⟩, device, hdevice,
        rfl⟩

theorem Raised.intelAt_of (h : g.Raised g') {i : Nat} {a' : Adapter} (ha : g'.IntelAt i a') :
    ∃ a, g.IntelAt i a := by
  obtain ⟨n, adapters, hn, hadapters, rfl⟩ := h
  have hrel := rel_child hadapters i
  have hthere' : adapters[i]?.join = some a' := ha.there
  rw [hthere'] at hrel
  cases hthere : g.adapters[i]?.join with
  | none =>
    rw [hthere] at hrel
    cases hrel
  | some a =>
    rw [hthere] at hrel
    have hi : i < g.adapters.length := by
      by_contra hle
      rw [List.getElem?_eq_none (Nat.le_of_not_lt hle)] at hthere
      cases hthere
    cases hrel with
    | some hr =>
      obtain ⟨device, hdevice, rfl⟩ := hr
      exact ⟨a, (hn.lt_iff hi).1 ha.reported, hthere, ha.available, ha.vendor⟩

/-- The same adapter is the first one of Intel. -/
theorem Raised.firstIntelAt (h : g.Raised g') {i : Nat} {a : Adapter} (ha : g.FirstIntelAt i a) :
    ∃ a', g'.FirstIntelAt i a' ∧ a.device.Raised a'.device := by
  obtain ⟨a', ha', device, hdevice, rfl⟩ := h.intelAt ha.toIntelAt
  refine ⟨_, ⟨ha', fun j hj b hb => ?_⟩, hdevice⟩
  obtain ⟨b', hb'⟩ := h.intelAt_of hb
  exact ha.least j hj b' hb'

theorem FirstIntelAt.unique {i j : Nat} {a b : Adapter} (ha : g.FirstIntelAt i a)
    (hb : g.FirstIntelAt j b) : a = b := by
  rcases Nat.lt_trichotomy i j with hlt | rfl | hlt
  · exact absurd ha.toIntelAt (hb.least i hlt a)
  · exact Option.some.inj (ha.there.symm.trans hb.there)
  · exact absurd hb.toIntelAt (ha.least j hlt b)

end AdapterGroup

/-! ## Objects replaced by null -/

/-- The tree with an adapter replaced by null. -/
def AdapterGroup.withoutAdapter (i : Nat) (g : AdapterGroup) : AdapterGroup :=
  { g with adapters := g.adapters.set i none }

/-- The device with a concurrent group replaced by null. -/
def Device.withoutGroup (i : Nat) (d : Device) : Device := { d with groups := d.groups.set i none }

/-- The device with the concurrent group at a place changed. -/
def Device.changeGroup (i : Nat) (f : ConcurrentGroup → ConcurrentGroup) (d : Device) : Device :=
  { d with groups := d.groups.modify i (Option.map f) }

/-- The group with a metric set replaced by null. -/
def ConcurrentGroup.withoutSet (j : Nat) (g : ConcurrentGroup) : ConcurrentGroup :=
  { g with sets := g.sets.set j none }

/-- The group with the metric set at a place changed. -/
def ConcurrentGroup.changeSet (j : Nat) (f : MetricSet → MetricSet) (g : ConcurrentGroup) :
    ConcurrentGroup := { g with sets := g.sets.modify j (Option.map f) }

/-- The set with a metric replaced by null. -/
def MetricSet.withoutMetric (m : Nat) (s : MetricSet) : MetricSet :=
  { s with metrics := s.metrics.set m none }

/-- The device with a metric set replaced by null. -/
def Device.withoutSet (id : MetricSetId) : Device → Device :=
  changeGroup id.group (ConcurrentGroup.withoutSet id.set)

/-- The device with a metric of a set replaced by null. -/
def Device.withoutMetric (id : MetricSetId) (m : Nat) : Device → Device :=
  changeGroup id.group (ConcurrentGroup.changeSet id.set (MetricSet.withoutMetric m))

end Vendor

/-- The entry of a group without that of a set. -/
def ConcurrentGroupEntry.withoutSet (id : MetricSetId) (e : ConcurrentGroupEntry) :
    ConcurrentGroupEntry := { e with sets := e.sets.filter fun s => s.id != id }

/-- The entry of a set with these metrics, if it is that of the set named. -/
def MetricSetEntry.withMetrics (id : MetricSetId) (metrics : List MetricParams)
    (e : MetricSetEntry) : MetricSetEntry := if e.id = id then { e with metrics } else e

/-- The entry of a group with these metrics in that of a set. -/
def ConcurrentGroupEntry.withMetrics (id : MetricSetId) (metrics : List MetricParams)
    (e : ConcurrentGroupEntry) : ConcurrentGroupEntry :=
  { e with sets := e.sets.map (MetricSetEntry.withMetrics id metrics) }

namespace Vendor

theorem AdapterGroup.infos_withoutAdapter (g : AdapterGroup) (i : Nat) :
    (g.withoutAdapter i).infos = g.infos.filter fun info => info.index != i :=
  placed_set_none AdapterInfo.index (fun _ _ _ h => Adapter.index_of_info? h) i

theorem Device.entries_withoutGroup (d : Device) (i : Nat) :
    (d.withoutGroup i).entries = d.entries.filter fun e => e.index != i :=
  placed_set_none ConcurrentGroupEntry.index
    (fun _ _ _ h => ConcurrentGroup.index_of_entryAt? h) i

theorem ConcurrentGroup.setEntries_withoutSet (g : ConcurrentGroup) (id : MetricSetId) :
    (g.withoutSet id.set).setEntries id.group =
      (g.setEntries id.group).filter fun e => e.id != id := by
  have hplace : placed g.setCount (g.sets.set id.set none) (fun s j => s.entryAt? ⟨id.group, j⟩) =
      (g.setEntries id.group).filter fun e => e.id.set != id.set :=
    placed_set_none (fun e => e.id.set)
      (fun _ _ _ h => congrArg MetricSetId.set (MetricSet.id_of_entryAt? h)) id.set
  refine hplace.trans (List.filter_congr fun e he => ?_)
  -- all these entries are of the group, so the place in it tells them apart
  have hgroup := group_of_mem_setEntries he
  rw [Bool.eq_iff_iff, bne_iff_ne, bne_iff_ne, not_iff_not]
  constructor
  · intro hset
    cases hid : e.id
    simp_all
  · rintro rfl
    rfl

/-- A change that leaves alone the sets of other groups leaves alone the entries of other groups. -/
theorem ConcurrentGroup.entryAt?_of_sets {F : List MetricSetEntry → List MetricSetEntry}
    {g g' : ConcurrentGroup} {i : Nat} (hparams : g'.params? = g.params?)
    (hsets : g'.setEntries i = F (g.setEntries i)) :
    g'.entryAt? i = (g.entryAt? i).map fun e => { e with sets := F e.sets } := by
  rw [ConcurrentGroup.entryAt?, ConcurrentGroup.entryAt?, hparams, hsets, Option.map_map]
  rfl

theorem Device.entries_withoutSet (d : Device) (id : MetricSetId) :
    (d.withoutSet id).entries = d.entries.map (ConcurrentGroupEntry.withoutSet id) := by
  refine placed_modify (fun g _ => ?_) fun g i e hne he => ?_
  · exact ConcurrentGroup.entryAt?_of_sets rfl (g.setEntries_withoutSet id)
  · -- a set of another group is another set
    have hall : ∀ s ∈ e.sets, (s.id != id) = true := by
      intro s hs
      rw [bne_iff_ne]
      rintro rfl
      rw [ConcurrentGroup.sets_of_entryAt? he] at hs
      exact hne (ConcurrentGroup.group_of_mem_setEntries hs).symm
    rw [ConcurrentGroupEntry.withoutSet, List.filter_eq_self.2 hall]

theorem MetricSet.placedMetrics_withoutMetric (s : MetricSet) (m : Nat) :
    (s.withoutMetric m).placedMetrics = s.placedMetrics.filter fun p => p.1 != m := by
  refine placed_set_none Prod.fst (fun c i p h => ?_) m
  obtain ⟨params, -, rfl⟩ := Option.map_eq_some_iff.1 h
  rfl

/-- The parameters of the metrics of a set, without the one at a place. -/
def MetricSet.metricsWithout (s : MetricSet) (m : Nat) : List MetricParams :=
  (s.placedMetrics.filter fun p => p.1 != m).map Prod.snd

theorem MetricSet.entryAt?_withoutMetric (s : MetricSet) (id : MetricSetId) (m : Nat) :
    (s.withoutMetric m).entryAt? id =
      (s.entryAt? id).map (MetricSetEntry.withMetrics id (s.metricsWithout m)) := by
  have hparams : (s.withoutMetric m).params? = s.params? := rfl
  rw [entryAt?, entryAt?, hparams, placedMetrics_withoutMetric, Option.map_map]
  congr 1
  funext params
  simp [MetricSetEntry.withMetrics, metricsWithout]

theorem Device.entries_withoutMetric {d : Device} {id : MetricSetId} {s : MetricSet}
    (h : d.metricSet? id = some s) (m : Nat) :
    (d.withoutMetric id m).entries =
      d.entries.map (ConcurrentGroupEntry.withMetrics id (s.metricsWithout m)) := by
  refine placed_modify (fun g hg => ?_) fun g i e hne he => ?_
  · -- the group is that of the set, so the set at the place is the one that is changed
    rw [metricSet?, hg] at h
    refine ConcurrentGroup.entryAt?_of_sets rfl (placed_modify (fun s' hs' => ?_) ?_)
    · obtain rfl := Option.some.inj (h.symm.trans hs')
      exact s.entryAt?_withoutMetric id m
    · intro s' j e hne he
      have hid := MetricSet.id_of_entryAt? he
      refine if_neg ?_
      rw [hid]
      exact fun heq => hne (congrArg MetricSetId.set heq)
  · have hall : ∀ s' ∈ e.sets, MetricSetEntry.withMetrics id (s.metricsWithout m) s' = s' := by
      intro s' hs'
      refine if_neg ?_
      rintro rfl
      rw [ConcurrentGroup.sets_of_entryAt? he] at hs'
      exact hne (ConcurrentGroup.group_of_mem_setEntries hs').symm
    rw [ConcurrentGroupEntry.withMetrics, List.map_congr_left hall, List.map_id']

end Vendor

end GpuMonitor
