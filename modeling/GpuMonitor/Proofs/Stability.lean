import GpuMonitor.Proofs.Operating

/-!
# Stable trees

A tree is stable if each of its objects always gives its parameters, or never does. Reading uses
nothing of a stable tree up, so it leaves a library exactly as it is; and whatever else is done
with a library, its trees stay stable.

* `Stable`: of a metric, a metric set, a concurrent group, a device, an adapter, an adapter group,
  a metrics library in use, and a `Library`.
* `Leaves P same m`: `m` leaves `P` true, and the state as it is if `same` holds. It passes
  through every way to reach an object (`leaves_hold`, `leaves_within`).
* `Library.leaves_perform`: every request leaves a library stable.
* `Library.reading_rests`: reading leaves a stable library as it is.
* `Session.obeying_stays`: whatever a session does, its library stays stable.
-/

namespace GpuMonitor

open Vendor

variable {α β π σ τ : Type}

/-! ## What an action leaves -/

/-- From a state that meets `P` the action ends in one that meets it too, and in the very same
state if `same` holds. -/
def Leaves (P : σ → Prop) (same : Prop) (m : Action σ α) : Prop :=
  Obeys (fun s _ s' => P s → P s' ∧ (same → s' = s)) m

theorem composes_leaves (P : σ → Prop) (same : Prop) :
    Composes fun s (_ : Trace) s' => P s → P s' ∧ (same → s' = s) where
  nil _ hs := ⟨hs, fun _ => rfl⟩
  append h h' hs := by
    obtain ⟨hs', heq⟩ := h hs
    obtain ⟨hs'', heq'⟩ := h' hs'
    exact ⟨hs'', fun hsame => (heq' hsame).trans (heq hsame)⟩

/-- What leaves the state as it is leaves it such that `P` holds. -/
theorem Leaves.weaken {P : σ → Prop} {m : Action σ α} (h : Leaves P True m) (same : Prop) :
    Leaves P same m := by
  intro s hs
  obtain ⟨hs', heq⟩ := h s hs
  exact ⟨hs', fun _ => heq trivial⟩

section
variable {P : σ → Prop} {same : Prop}

theorem leaves_pure (a : α) : Leaves P same (pure a : Action σ α) :=
  obeys_pure (composes_leaves P same) a

theorem leaves_get : Leaves P same (get : Action σ σ) := obeys_get (composes_leaves P same)

theorem leaves_bind {m : Action σ α} {f : α → Action σ β} (hm : Leaves P same m)
    (hf : ∀ a, Leaves P same (f a)) : Leaves P same (m >>= f) :=
  obeys_bind (composes_leaves P same) hm hf

theorem leaves_map {m : Action σ α} (f : α → β) (hm : Leaves P same m) :
    Leaves P same (f <$> m) := obeys_map f hm

/-- An action on a part leaves the whole as it leaves the part, if a part that is put back
unchanged changes nothing. -/
theorem leaves_within {get : τ → σ} {put : τ → σ → τ} {Q : τ → Prop} {m : Action σ α}
    (hm : Leaves P same m) (hget : ∀ t, Q t → P (get t))
    (hput : ∀ t s, Q t → P s → Q (put t s)) (hback : ∀ t, put t (get t) = t) :
    Leaves Q same (within get put m) := by
  intro t ht
  obtain ⟨hs, heq⟩ := hm (get t) (hget t ht)
  refine ⟨hput t _ ht hs, fun hsame => ?_⟩
  rw [Action.value_within, heq hsame, hback]

end

namespace Vendor

/-! ## Reaching objects -/

section
variable {P : β → Prop} {Q : τ → Prop} {same : Prop} {children : τ → List (Option β)}
  {keep : τ → List (Option β) → τ} {i : Nat} {m : Action β α}
  (hm : Leaves P same m) (hchildren : ∀ p, Q p → ∀ o ∈ children p, ∀ c ∈ o, P c)
  (hkeep : ∀ p xs, Q p → (∀ o ∈ xs, ∀ c ∈ o, P c) → Q (keep p xs))
  (hback : ∀ p, keep p (children p) = p)
include hm hchildren hkeep hback

theorem leaves_hold : Leaves Q same (hold children keep i m) := by
  intro p hp
  cases h : (children p)[i]?.join with
  | none =>
    have hrest : (hold children keep i m p).value.2 = p := by simp only [hold, h]
    rw [hrest]
    exact ⟨hp, fun _ => rfl⟩
  | some c =>
    have hi : (children p)[i]? = some (some c) := by simpa [Option.join_eq_some_iff] using h
    have hc : P c := hchildren p hp (some c) (List.mem_of_getElem? hi) c rfl
    obtain ⟨hc', heq⟩ := hm c hc
    simp only [hold, h]
    refine ⟨hkeep p _ hp fun o ho d hd => ?_, fun hsame => ?_⟩
    · -- a child is the one that was acted on, or one that was there before
      rcases List.mem_or_eq_of_mem_set ho with ho | rfl
      · exact hchildren p hp o ho d hd
      · obtain rfl := Option.mem_some.1 hd
        exact hc'
    · obtain ⟨hlt, hget⟩ := List.getElem?_eq_some_iff.1 hi
      rw [heq hsame, ← hget, List.set_getElem_self, hback]

theorem leaves_seek {object : Object} : Leaves Q same (seek object children keep i m) :=
  leaves_hold hm hchildren hkeep hback

end

theorem leaves_ask {P : β → Prop} {object : Object} {left : β → Availability}
    {keep : β → Availability → β} {params : β → π} (hleft : ∀ b, P b → (left b).Stable)
    (hback : ∀ b, keep b (left b) = b) : Leaves P True (ask object left keep params) := by
  intro b hb
  -- what is put back after the reading is what was there
  have heq : keep b (left b).take.2 = b := by
    rw [show (left b).take.2 = left b from hleft b hb, hback]
  refine ⟨?_, fun _ => heq⟩
  show P (keep b (left b).take.2)
  rw [heq]
  exact hb

theorem leaves_respond {P : β → Prop} {call : β → CompletionCode → Call} {left : β → Codes}
    {keep : β → Codes → β} (hkeep : ∀ b codes, P b → P (keep b codes)) :
    Leaves P False (respond call left keep) := fun b hb => ⟨hkeep b _ hb, False.elim⟩

/-! ## Stable objects -/

instance (a : Availability) : Decidable a.Stable := inferInstanceAs (Decidable (a.take.2 = a))

/-- The metric always gives its parameters, or never. -/
def Metric.Stable (m : Metric) : Prop := m.availability.Stable

instance (m : Metric) : Decidable m.Stable := inferInstanceAs (Decidable m.availability.Stable)

/-- The metric set and its metrics always give their parameters, or never. -/
def MetricSet.Stable (s : MetricSet) : Prop :=
  s.availability.Stable ∧ ∀ o ∈ s.metrics, ∀ m ∈ o, m.Stable

instance (s : MetricSet) : Decidable s.Stable := inferInstanceAs (Decidable (_ ∧ _))

/-- The concurrent group and all below it are stable. -/
def ConcurrentGroup.Stable (g : ConcurrentGroup) : Prop :=
  g.availability.Stable ∧ ∀ o ∈ g.sets, ∀ s ∈ o, s.Stable

instance (g : ConcurrentGroup) : Decidable g.Stable := inferInstanceAs (Decidable (_ ∧ _))

/-- The device and all below it are stable. -/
def Device.Stable (d : Device) : Prop :=
  d.availability.Stable ∧ ∀ o ∈ d.groups, ∀ g ∈ o, g.Stable

instance (d : Device) : Decidable d.Stable := inferInstanceAs (Decidable (_ ∧ _))

/-- The adapter and its device are stable. -/
def Adapter.Stable (a : Adapter) : Prop := a.availability.Stable ∧ a.device.Stable

instance (a : Adapter) : Decidable a.Stable := inferInstanceAs (Decidable (_ ∧ _))

/-- The adapter group and all below it are stable: each object of the tree always gives its
parameters, or never. -/
def AdapterGroup.Stable (g : AdapterGroup) : Prop :=
  g.availability.Stable ∧ ∀ o ∈ g.adapters, ∀ a ∈ o, a.Stable

instance (g : AdapterGroup) : Decidable g.Stable := inferInstanceAs (Decidable (_ ∧ _))

/-- The tree of the script is stable, and so is what is left of each tree served. -/
structure State.Stable (v : State) : Prop where
  script : v.script.group.Stable
  earlier : ∀ g ∈ v.earlier, g.Stable
  latest : v.latest.Stable

theorem State.stable_fresh {script : Script} (h : script.group.Stable) :
    (fresh script).Stable := ⟨h, nofun, h⟩

/-- A metrics library whose tree is stable, with all in it that can be missing. The adapter of Intel
stands behind one that is null, one of another vendor and one without parameters; every count is
too high; the set has metrics that are null, without a name or without parameters before
`VideoUtil` and `RenderBusy`. Its third activation fails, and so does its first deactivation. -/
def Script.patchy : Script where
  group := { adapterCount := 9, adapters := [none, some foreign, some unread, some adapter] }
where
  foreign : Adapter := { vendorId := 0x10DE, deviceId := 1 }
  unread : Adapter := { vendorId := 0x8086, deviceId := 2, availability := .reads 0 }
  named (name : Bytes) : Metric := { symbolName := some name }
  util : Metric := named [86, 105, 100, 101, 111, 85, 116, 105, 108]
  busy : Metric := named [82, 101, 110, 100, 101, 114, 66, 117, 115, 121]
  set : MetricSet :=
    { metricCount := 9
      metrics := [none, some {}, some { busy with availability := .reads 0 }, some util, some busy]
      activation := [0, 0, 42]
      deactivation := [42, 0] }
  adapter : Adapter :=
    { vendorId := 0x8086
      deviceId := 0x5917
      device :=
        { groupCount := 9, groups := [none, some { setCount := 9, sets := [none, some set] }] } }

theorem Script.stable_patchy : patchy.group.Stable := by decide

/-! ### What is done with them -/

theorem Metric.leaves_read (object : Object) : Leaves Stable True (read object) :=
  leaves_ask (fun _ h => h) fun _ => rfl

namespace MetricSet

theorem leaves_read (object : Object) : Leaves Stable True (read object) :=
  leaves_ask (fun _ h => h.1) fun _ => rfl

theorem leaves_activate (a : Nat) (id : MetricSetId) : Leaves Stable False (activate a id) :=
  leaves_respond fun _ _ h => h

theorem leaves_deactivate (a : Nat) (id : MetricSetId) : Leaves Stable False (deactivate a id) :=
  leaves_respond fun _ _ h => h

theorem leaves_seekMetric {same : Prop} {a : Nat} {id : MetricSetId} {i : Nat}
    {m : Action Metric α} (hm : Leaves Metric.Stable same m) :
    Leaves Stable same (seekMetric a id i m) :=
  leaves_seek hm (fun _ h => h.2) (fun _ _ h hxs => ⟨h.1, hxs⟩) fun _ => rfl

end MetricSet

namespace ConcurrentGroup

theorem leaves_read (object : Object) : Leaves Stable True (read object) :=
  leaves_ask (fun _ h => h.1) fun _ => rfl

theorem leaves_seekSet {same : Prop} {a : Nat} {id : MetricSetId} {m : Action MetricSet α}
    (hm : Leaves MetricSet.Stable same m) : Leaves Stable same (seekSet a id m) :=
  leaves_seek hm (fun _ h => h.2) (fun _ _ h hxs => ⟨h.1, hxs⟩) fun _ => rfl

end ConcurrentGroup

namespace Device

theorem leaves_read (object : Object) : Leaves Stable True (read object) :=
  leaves_ask (fun _ h => h.1) fun _ => rfl

theorem leaves_readClocks (a : Nat) : Leaves Stable False (readClocks a) :=
  leaves_bind (leaves_respond fun _ _ h => h) fun _ =>
    leaves_bind leaves_get fun _ => leaves_pure _

variable {same : Prop} {a : Nat}

theorem leaves_seekGroup {g : Nat} {m : Action ConcurrentGroup α}
    (hm : Leaves ConcurrentGroup.Stable same m) : Leaves Stable same (seekGroup a g m) :=
  leaves_seek hm (fun _ h => h.2) (fun _ _ h hxs => ⟨h.1, hxs⟩) fun _ => rfl

theorem leaves_seekSet {id : MetricSetId} {m : Action MetricSet α}
    (hm : Leaves MetricSet.Stable same m) : Leaves Stable same (seekSet a id m) :=
  leaves_map _ (leaves_seekGroup (ConcurrentGroup.leaves_seekSet hm))

end Device

namespace Adapter

theorem leaves_read (object : Object) : Leaves Stable True (read object) :=
  leaves_ask (fun _ h => h.1) fun _ => rfl

theorem leaves_openDevice (i : Nat) : Leaves Stable False (openDevice i) :=
  leaves_bind (leaves_respond fun _ _ h => h) fun _ =>
    leaves_bind leaves_get fun _ => leaves_pure _

theorem leaves_closeDevice (i : Nat) : Leaves Stable False (closeDevice i) :=
  leaves_respond fun _ _ h => h

theorem leaves_onDevice {same : Prop} {m : Action Device α} (hm : Leaves Device.Stable same m) :
    Leaves Stable same (onDevice m) :=
  leaves_within hm (fun _ h => h.2) (fun _ _ h hd => ⟨h.1, hd⟩) fun _ => rfl

end Adapter

namespace AdapterGroup

theorem leaves_read : Leaves Stable True read := leaves_ask (fun _ h => h.1) fun _ => rfl

theorem leaves_close : Leaves Stable False close := leaves_respond fun _ _ h => h

variable {same : Prop} {i : Nat} {m : Action Adapter α}

theorem leaves_holdAdapter (hm : Leaves Adapter.Stable same m) :
    Leaves Stable same (holdAdapter i m) :=
  leaves_hold hm (fun _ h => h.2) (fun _ _ h hxs => ⟨h.1, hxs⟩) fun _ => rfl

theorem leaves_seekAdapter (hm : Leaves Adapter.Stable same m) :
    Leaves Stable same (seekAdapter i m) := leaves_holdAdapter hm

end AdapterGroup

namespace State

theorem Stable.tree {v : State} (h : v.Stable) (n : Nat) : (v.tree n).Stable := by
  by_cases hn : n < v.earlier.length
  · have heq : v.tree n = v.earlier[n] := by simp [State.tree, hn]
    rw [heq]
    exact h.earlier _ (List.getElem_mem hn)
  · have heq : v.tree n = v.latest := by simp [State.tree, hn]
    rw [heq]
    exact h.latest

theorem Stable.putTree {v : State} (h : v.Stable) (n : Nat) {g : AdapterGroup} (hg : g.Stable) :
    (v.putTree n g).Stable := by
  unfold State.putTree
  split
  · refine ⟨h.script, fun g' hg' => ?_, h.latest⟩
    -- an earlier tree is the one that was put there, or was there before
    rcases List.mem_or_eq_of_mem_set hg' with hmem | rfl
    · exact h.earlier g' hmem
    · exact hg
  · exact ⟨h.script, h.earlier, hg⟩

section
variable {same : Prop} {m : Action AdapterGroup α} (hm : Leaves AdapterGroup.Stable same m)
include hm

theorem leaves_onTree (n : Nat) : Leaves Stable same (onTree n m) := by
  refine leaves_within hm (fun _ h => h.tree n) (fun _ _ h hg => h.putTree n hg) fun v => ?_
  -- a tree is put back where it was, among the earlier ones or as the latest
  by_cases hn : n < v.earlier.length <;> simp [State.tree, putTree, hn]

theorem leaves_onLatest : Leaves Stable same (onLatest m) :=
  leaves_within hm (fun _ h => h.latest) (fun _ _ h hg => ⟨h.script, h.earlier, hg⟩) fun _ => rfl

end

/-- The entry point serves the tree of the script again, and that is stable. -/
theorem leaves_openAdapters : Leaves Stable False openAdapters := by
  intro v hv
  refine ⟨⟨hv.script, fun g hg => ?_, hv.script⟩, False.elim⟩
  rcases List.mem_append.1 hg with hg | hg
  · exact hv.earlier g hg
  · obtain rfl := List.mem_singleton.1 hg
    exact hv.latest

end State
end Vendor

/-! ## Stable libraries -/

namespace Library

/-- Every tree that the library serves, or has served, is stable. -/
def Stable (lib : Library) : Prop := lib.vendor.Stable

section
variable {same : Prop}

theorem leaves_onVendor {m : Action State α} (hm : Leaves State.Stable same m) :
    Leaves Stable same (onVendor m) :=
  leaves_within hm (fun _ h => h) (fun _ _ _ hv => hv) fun _ => rfl

theorem leaves_onGroup {m : Action AdapterGroup (Option α)}
    (hm : Leaves AdapterGroup.Stable same m) : Leaves Stable same (onGroup m) := by
  refine leaves_bind leaves_get fun lib => ?_
  split
  · exact leaves_onVendor (State.leaves_onLatest hm)
  · exact leaves_pure _

theorem leaves_onAdapter (d : OpenDevice) {m : Action Adapter α}
    (hm : Leaves Adapter.Stable same m) : Leaves Stable same (onAdapter d m) :=
  leaves_onVendor (State.leaves_onTree (AdapterGroup.leaves_holdAdapter hm) d.tree)

theorem leaves_onDevice {m : Nat → Action Device (Option α)}
    (hm : ∀ a, Leaves Device.Stable same (m a)) : Leaves Stable same (onDevice m) := by
  refine leaves_bind leaves_get fun lib => ?_
  split
  · exact leaves_pure _
  · next d _ => exact leaves_map _ (leaves_onAdapter d (Adapter.leaves_onDevice (hm d.adapter)))

theorem leaves_onSet (id : MetricSetId) {m : Nat → Action MetricSet (Option α)}
    (hm : ∀ a, Leaves MetricSet.Stable same (m a)) : Leaves Stable same (onSet id m) :=
  leaves_onDevice fun a => leaves_map _ (Device.leaves_seekSet (hm a))

end

/-! ### Reading -/

theorem leaves_readAdapterGroup : Leaves Stable True readAdapterGroup :=
  leaves_onGroup AdapterGroup.leaves_read

theorem leaves_readAdapter (i : Nat) : Leaves Stable True (readAdapter i) :=
  leaves_onGroup (leaves_map _ (AdapterGroup.leaves_seekAdapter (Adapter.leaves_read _)))

theorem leaves_readDevice : Leaves Stable True readDevice :=
  leaves_onDevice fun _ => Device.leaves_read _

theorem leaves_readConcurrentGroup (g : Nat) : Leaves Stable True (readConcurrentGroup g) :=
  leaves_onDevice fun _ => leaves_map _ (Device.leaves_seekGroup (ConcurrentGroup.leaves_read _))

theorem leaves_readMetricSet (id : MetricSetId) : Leaves Stable True (readMetricSet id) :=
  leaves_onSet id fun _ => MetricSet.leaves_read _

theorem leaves_readMetric (id : MetricSetId) (i : Nat) : Leaves Stable True (readMetric id i) :=
  leaves_onSet id fun _ => leaves_map _ (MetricSet.leaves_seekMetric (Metric.leaves_read _))

/-- Reading leaves a stable library exactly as it is. -/
theorem reading_rests :
    ReadingObeys fun (lib : Library) _ lib' => lib.Stable → lib'.Stable ∧ (True → lib' = lib) where
  composes := composes_leaves Stable True
  logging _ _ _ _ h := ⟨h, fun _ => rfl⟩
  adapterGroup := leaves_readAdapterGroup
  adapter := leaves_readAdapter
  device := leaves_readDevice
  concurrentGroup := leaves_readConcurrentGroup
  metricSet := leaves_readMetricSet
  metric := leaves_readMetric

/-! ### Everything else -/

theorem leaves_activate (id : MetricSetId) : Leaves Stable False (activate id) :=
  leaves_map _ (leaves_onSet id fun _ => leaves_map _ (MetricSet.leaves_activate _ _))

theorem leaves_deactivate (id : MetricSetId) : Leaves Stable False (deactivate id) :=
  leaves_map _ (leaves_onSet id fun _ => leaves_map _ (MetricSet.leaves_deactivate _ _))

theorem leaves_readClocks : Leaves Stable False readClocks :=
  leaves_map _ (leaves_onDevice fun _ => leaves_map _ (Device.leaves_readClocks _))

/-- What is open and what is loaded has nothing to do with what is served. -/
theorem handling_stable :
    Handling fun lib _ lib' => lib.Stable → lib'.Stable ∧ (False → lib' = lib) where
  composes := composes_leaves Stable False
  noting lib lib' hv _ h := by
    refine ⟨?_, False.elim⟩
    show lib'.vendor.Stable
    rw [hv]
    exact h
  openAdapters := leaves_onVendor State.leaves_openAdapters
  openDevice i := leaves_onGroup (AdapterGroup.leaves_seekAdapter (Adapter.leaves_openDevice i))
  closeDevice d := leaves_onAdapter d (Adapter.leaves_closeDevice d.adapter)
  closeAdapters := leaves_onVendor (State.leaves_onLatest AdapterGroup.leaves_close)

/-- Whatever is asked of it, a stable library stays stable. -/
theorem leaves_perform (r : Gateway.Request) :
    Leaves Stable False (Gateway.perform (γ := Library) r) := by
  cases r with
  | openAdapters => exact leaves_map _ (obeys_openAdapters handling_stable)
  | readAdapterGroup => exact leaves_map _ (leaves_readAdapterGroup.weaken _)
  | readAdapter i => exact leaves_map _ ((leaves_readAdapter i).weaken _)
  | openDevice i => exact leaves_map _ (obeys_openDevice handling_stable i)
  | readDevice => exact leaves_map _ (leaves_readDevice.weaken _)
  | readConcurrentGroup g => exact leaves_map _ ((leaves_readConcurrentGroup g).weaken _)
  | readMetricSet id => exact leaves_map _ ((leaves_readMetricSet id).weaken _)
  | readMetric id i => exact leaves_map _ ((leaves_readMetric id i).weaken _)
  | activate id => exact leaves_map _ (leaves_activate id)
  | deactivate id => exact leaves_map _ (leaves_deactivate id)
  | readClocks => exact leaves_map _ leaves_readClocks
  | closeDevice => exact leaves_map _ (obeys_closeDevice handling_stable)
  | closeAdapters => exact leaves_map _ (obeys_closeAdapters handling_stable)
  | unload =>
    refine leaves_map _ (obeys_unload handling_stable (fun lib _ _ h => ?_) fun lib h => ?_)
    · exact ⟨h, fun _ => rfl⟩
    · exact ⟨h, False.elim⟩

end Library

/-! ## Sessions on stable libraries -/

namespace Session

/-- Whatever a session does, its library stays stable. -/
theorem obeying_stays :
    ObeyingAll fun (s : Session Library) _ s' => s.gateway.Stable → s'.gateway.Stable where
  composes := ⟨fun _ h => h, fun h h' hs => h' (h hs)⟩
  logging _ _ _ h := h
  waiting _ _ h := h
  request r g s hs h := by
    subst hs
    exact (Library.leaves_perform r s.gateway h).1
  settling s s' hg _ h := by
    rw [hg]
    exact h
  noting s s' hg h := by
    rw [hg]
    exact h

end Session
end GpuMonitor
