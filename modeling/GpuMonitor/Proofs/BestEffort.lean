import GpuMonitor.Proofs.Coupling
import GpuMonitor.Proofs.Library

/-!
# Calls that a session can do without

A session reads the clocks, deactivates and closes as well as it can: whatever these calls
answer, it goes on. Here the trees that a library serves are looked at without what such calls
are answered with.

* `core`: an object, a library in use, a library, without the codes and times of such calls.
* `core_*`: such a call keeps the core of what it acts on.
* `coupled_*`: two libraries with one core answer every other call the same, and still have one
  core afterwards (`Library.reading_coupled`, `Library.coupled_activate`,
  `Library.coupled_openAdapters`, `Library.coupled_openDevice`).
-/

namespace GpuMonitor

open Vendor

variable {α β τ π : Type}

namespace Vendor

/-! ## The core -/

/-- A metric set without the codes of its deactivations. -/
def MetricSet.core (s : MetricSet) : MetricSet := { s with deactivation := [] }

/-- A concurrent group of cores. -/
def ConcurrentGroup.core (g : ConcurrentGroup) : ConcurrentGroup :=
  { g with sets := g.sets.map (Option.map MetricSet.core) }

/-- A device without its clocks. -/
def Device.core (d : Device) : Device :=
  { d with
    groups := d.groups.map (Option.map ConcurrentGroup.core)
    clockCodes := []
    gpuNanos := 0
    cpuNanos := 0
    cpuId := 0 }

/-- An adapter without the codes of its closings. -/
def Adapter.core (a : Adapter) : Adapter := { a with closing := [], device := a.device.core }

/-- An adapter group without the codes of its closings. -/
def AdapterGroup.core (g : AdapterGroup) : AdapterGroup :=
  { g with adapters := g.adapters.map (Option.map Adapter.core), closing := [] }

/-- A script with the core of its tree. -/
def Script.core (s : Script) : Script := { s with group := s.group.core }

/-- A metrics library in use, with the cores of its trees. -/
def State.core (v : State) : State :=
  { script := v.script.core, earlier := v.earlier.map AdapterGroup.core, latest := v.latest.core }

/-! ## Reaching objects -/

section
variable {f : β → β} {F : τ → τ} {children : τ → List (Option β)}
  {keep : τ → List (Option β) → τ} {i : Nat} {m : Action β α}
  (hm : Coupled (Same f) Eq m m)
  (hchildren : ∀ p, children (F p) = (children p).map (Option.map f))
  (hkeep : ∀ p xs, F (keep p xs) = keep (F p) (xs.map (Option.map f)))
include hm hchildren hkeep

theorem coupled_hold :
    Coupled (Same F) Eq (hold children keep i m) (hold children keep i m) := by
  intro p p' hp
  unfold Same at hp
  have hlists : (children p).map (Option.map f) = (children p').map (Option.map f) := by
    rw [← hchildren, hp, hchildren]
  have hchild : (children p)[i]?.join.map f = (children p')[i]?.join.map f := by
    rw [← child_map, hlists, child_map]
  cases hc : (children p)[i]?.join with
  | none =>
    rw [hc, Option.map_none] at hchild
    have hc' : (children p')[i]?.join = none := Option.map_eq_none_iff.1 hchild.symm
    simp only [hold, hc, hc', true_and]
    exact hp
  | some c =>
    rw [hc, Option.map_some] at hchild
    obtain ⟨c', hc', hcore⟩ := Option.map_eq_some_iff.1 hchild.symm
    obtain ⟨hanswer, hstate⟩ := hm c c' hcore.symm
    have hput : f (m c).value.2 = f (m c').value.2 := hstate
    simp only [hold, hc, hc']
    refine ⟨congrArg some hanswer, ?_⟩
    -- the child is put back on both sides, and the other children are as they were
    unfold Same
    rw [hkeep, hkeep, hp, List.map_set, List.map_set, hlists, Option.map_some, Option.map_some, hput]

theorem coupled_seek {object : Object} :
    Coupled (Same F) Eq (seek object children keep i m) (seek object children keep i m) :=
  coupled_hold hm hchildren hkeep

end

section
variable {F : β → β}

theorem coupled_ask {object : Object} {left : β → Availability} {keep : β → Availability → β}
    {params : β → π} (hleft : ∀ b, left (F b) = left b) (hparams : ∀ b, params (F b) = params b)
    (hkeep : ∀ b a, F (keep b a) = keep (F b) a) :
    Coupled (Same F) Eq (ask object left keep params) (ask object left keep params) := by
  intro b b' hb
  have hleft' := hb.reads left hleft
  have hparams' := hb.reads params hparams
  unfold Same at hb ⊢
  simp only [ask, hleft', hparams', hkeep, hb, and_self]

theorem coupled_respond {call : β → CompletionCode → Call} {left : β → Codes}
    {keep : β → Codes → β} (hleft : ∀ b, left (F b) = left b)
    (hkeep : ∀ b codes, F (keep b codes) = keep (F b) codes) :
    Coupled (Same F) Eq (respond call left keep) (respond call left keep) := by
  intro b b' hb
  have hleft' := hb.reads left hleft
  unfold Same at hb ⊢
  simp only [respond, hleft', hkeep, hb, and_self]

end

/-! ## Objects with one core -/

namespace MetricSet

theorem coupled_read (object : Object) : Coupled (Same core) Eq (read object) (read object) :=
  coupled_ask (fun _ => rfl) (fun _ => rfl) fun _ _ => rfl

theorem coupled_seekMetric (a : Nat) (id : MetricSetId) (i : Nat) (m : Action Metric α) :
    Coupled (Same core) Eq (seekMetric a id i m) (seekMetric a id i m) := by
  -- nothing of a metric is left out
  have hm : Coupled (Same fun m : Metric => m) Eq m m := by
    rintro x _ rfl
    exact ⟨rfl, rfl⟩
  exact coupled_seek hm (fun s => by simp [core]) fun s xs => by simp [core]

theorem coupled_activate (a : Nat) (id : MetricSetId) :
    Coupled (Same core) Eq (activate a id) (activate a id) :=
  coupled_respond (fun _ => rfl) fun _ _ => rfl

theorem core_deactivate (a : Nat) (id : MetricSetId) : Keeps core (deactivate a id) :=
  keeps_respond fun _ _ => rfl

end MetricSet

namespace ConcurrentGroup

theorem coupled_read (object : Object) : Coupled (Same core) Eq (read object) (read object) :=
  coupled_ask (fun _ => rfl) (fun _ => rfl) fun _ _ => rfl

variable {a : Nat} {id : MetricSetId} {m : Action MetricSet α}

theorem coupled_seekSet (hm : Coupled (Same MetricSet.core) Eq m m) :
    Coupled (Same core) Eq (seekSet a id m) (seekSet a id m) :=
  coupled_seek (F := core) hm (fun _ => rfl) fun _ _ => rfl

theorem core_seekSet (hm : Keeps MetricSet.core m) : Keeps core (seekSet a id m) :=
  keeps_seek hm fun _ _ h => by simp [core, h]

end ConcurrentGroup

namespace Device

theorem coupled_read (object : Object) : Coupled (Same core) Eq (read object) (read object) :=
  coupled_ask (fun _ => rfl) (fun _ => rfl) fun _ _ => rfl

theorem coupled_seekGroup {a g : Nat} {m : Action ConcurrentGroup α}
    (hm : Coupled (Same ConcurrentGroup.core) Eq m m) :
    Coupled (Same core) Eq (seekGroup a g m) (seekGroup a g m) :=
  coupled_seek (F := core) hm (fun _ => rfl) fun _ _ => rfl

theorem core_seekGroup {a g : Nat} {m : Action ConcurrentGroup α}
    (hm : Keeps ConcurrentGroup.core m) : Keeps core (seekGroup a g m) :=
  keeps_seek hm fun _ _ h => by simp [core, h]

theorem coupled_seekSet {a : Nat} {id : MetricSetId} {m : Action MetricSet α}
    (hm : Coupled (Same MetricSet.core) Eq m m) :
    Coupled (Same core) Eq (seekSet a id m) (seekSet a id m) :=
  coupled_map_eq _ (coupled_seekGroup (ConcurrentGroup.coupled_seekSet hm))

theorem core_seekSet {a : Nat} {id : MetricSetId} {m : Action MetricSet α}
    (hm : Keeps MetricSet.core m) : Keeps core (seekSet a id m) :=
  obeys_map _ (core_seekGroup (ConcurrentGroup.core_seekSet hm))

theorem core_readClocks (a : Nat) : Keeps core (readClocks a) :=
  obeys_bind (composes_keeps _) (keeps_respond fun _ _ => rfl) fun _ =>
    obeys_bind (composes_keeps _) (obeys_get (composes_keeps _)) fun _ =>
      obeys_pure (composes_keeps _) _

end Device

namespace Adapter

theorem coupled_read (object : Object) : Coupled (Same core) Eq (read object) (read object) :=
  coupled_ask (fun _ => rfl) (fun _ => rfl) fun _ _ => rfl

theorem coupled_openDevice (i : Nat) : Coupled (Same core) Eq (openDevice i) (openDevice i) := by
  refine coupled_bind_eq (coupled_respond (fun _ => rfl) fun _ _ => rfl) fun code => ?_
  refine coupled_bind coupled_get fun a a' h => coupled_pure ?_
  rw [h.reads givesDevice fun _ => rfl]

theorem core_closeDevice (i : Nat) : Keeps core (closeDevice i) := keeps_respond fun _ _ => rfl

variable {m : Action Device α}

theorem coupled_onDevice (hm : Coupled (Same Device.core) Eq m m) :
    Coupled (Same core) Eq (onDevice m) (onDevice m) :=
  coupled_part hm (fun _ => rfl) fun _ _ => rfl

theorem core_onDevice (hm : Keeps Device.core m) : Keeps core (onDevice m) :=
  keeps_within hm fun _ _ h => by simp [core, h]

end Adapter

namespace AdapterGroup

theorem coupled_read : Coupled (Same core) Eq read read :=
  coupled_ask (fun _ => rfl) (fun _ => rfl) fun _ _ => rfl

theorem core_close : Keeps core close := keeps_respond fun _ _ => rfl

variable {i : Nat} {m : Action Adapter α}

theorem coupled_holdAdapter (hm : Coupled (Same Adapter.core) Eq m m) :
    Coupled (Same core) Eq (holdAdapter i m) (holdAdapter i m) :=
  coupled_hold hm (fun _ => rfl) fun _ _ => rfl

theorem core_holdAdapter (hm : Keeps Adapter.core m) : Keeps core (holdAdapter i m) :=
  keeps_hold hm fun _ _ h => by simp [core, h]

theorem coupled_seekAdapter (hm : Coupled (Same Adapter.core) Eq m m) :
    Coupled (Same core) Eq (seekAdapter i m) (seekAdapter i m) := coupled_holdAdapter hm

end AdapterGroup

namespace State

theorem tree_core (n : Nat) (v : State) : v.core.tree n = (v.tree n).core := by
  by_cases h : n < v.earlier.length <;> simp [tree, core, h]

theorem core_putTree (n : Nat) (v : State) (g : AdapterGroup) :
    (v.putTree n g).core = v.core.putTree n g.core := by
  unfold putTree
  by_cases h : n < v.earlier.length <;> simp [core, h, List.map_set]

theorem putTree_tree (n : Nat) (v : State) : v.putTree n (v.tree n) = v := by
  unfold putTree
  by_cases h : n < v.earlier.length <;> simp [tree, h]

section
variable {m : Action AdapterGroup α}

theorem coupled_onTree {n : Nat} (hm : Coupled (Same AdapterGroup.core) Eq m m) :
    Coupled (Same core) Eq (onTree n m) (onTree n m) :=
  coupled_part hm (tree_core n) (core_putTree n)

theorem core_onTree {n : Nat} (hm : Keeps AdapterGroup.core m) : Keeps core (onTree n m) := by
  refine keeps_within hm fun v g h => ?_
  rw [core_putTree, h, ← tree_core, putTree_tree]

theorem coupled_onLatest (hm : Coupled (Same AdapterGroup.core) Eq m m) :
    Coupled (Same core) Eq (onLatest m) (onLatest m) :=
  coupled_part hm (fun _ => rfl) fun _ _ => rfl

theorem core_onLatest (hm : Keeps AdapterGroup.core m) : Keeps core (onLatest m) :=
  keeps_within hm fun _ _ h => by simp [core, h]

end

/-- The entry point serves the tree of the script from the start again. -/
theorem coupled_openAdapters : Coupled (Same core) Eq openAdapters openAdapters := by
  have hanswer (v : State) : (openAdapters v).value.1 = (openAdapters v.core).value.1 := rfl
  have hcore (v : State) : (openAdapters v).value.2.core = (openAdapters v.core).value.2 := by
    simp [openAdapters, core, Script.core]
  intro v v' h
  unfold Same at h ⊢
  rw [hanswer, hanswer v', hcore, hcore v', h]
  exact ⟨rfl, rfl⟩

end State

end Vendor

/-! ## Libraries with one core -/

namespace Library

/-- A library, with the core of what stands behind it. -/
def core (lib : Library) : Library := { lib with vendor := lib.vendor.core }

section
variable {m : Action State α}

theorem coupled_onVendor (hm : Coupled (Same State.core) Eq m m) :
    Coupled (Same core) Eq (onVendor m) (onVendor m) :=
  coupled_part hm (fun _ => rfl) fun _ _ => rfl

theorem core_onVendor (hm : Keeps State.core m) : Keeps core (onVendor m) :=
  keeps_within hm fun _ _ h => by simp [core, h]

end

section
variable {d : OpenDevice} {m : Action Adapter α}

theorem coupled_onAdapter (hm : Coupled (Same Adapter.core) Eq m m) :
    Coupled (Same core) Eq (onAdapter d m) (onAdapter d m) :=
  coupled_onVendor (State.coupled_onTree (AdapterGroup.coupled_holdAdapter hm))

theorem core_onAdapter (hm : Keeps Adapter.core m) : Keeps core (onAdapter d m) :=
  core_onVendor (State.core_onTree (AdapterGroup.core_holdAdapter hm))

end

theorem coupled_onGroup {m : Action AdapterGroup (Option α)}
    (hm : Coupled (Same AdapterGroup.core) Eq m m) :
    Coupled (Same core) Eq (onGroup m) (onGroup m) := by
  refine coupled_bind coupled_get fun lib lib' h => ?_
  rw [h.reads Library.groupOpen fun _ => rfl]
  split
  · exact coupled_onVendor (State.coupled_onLatest hm)
  · exact coupled_pure rfl

section
variable {m : Nat → Action Device (Option α)}

theorem coupled_onDevice (hm : ∀ a, Coupled (Same Device.core) Eq (m a) (m a)) :
    Coupled (Same core) Eq (onDevice m) (onDevice m) := by
  refine coupled_bind coupled_get fun lib lib' h => ?_
  rw [h.reads Library.device fun _ => rfl]
  cases lib'.device with
  | none => exact coupled_pure rfl
  | some d => exact coupled_map_eq _ (coupled_onAdapter (Adapter.coupled_onDevice (hm d.adapter)))

theorem core_onDevice (hm : ∀ a, Keeps Device.core (m a)) : Keeps core (onDevice m) := by
  have hc := composes_keeps core
  refine obeys_bind hc (obeys_get hc) fun lib => ?_
  split
  · exact obeys_pure hc _
  · next d _ => exact obeys_map _ (core_onAdapter (Adapter.core_onDevice (hm d.adapter)))

end

theorem coupled_onSet (id : MetricSetId) {m : Nat → Action MetricSet (Option α)}
    (hm : ∀ a, Coupled (Same MetricSet.core) Eq (m a) (m a)) :
    Coupled (Same core) Eq (onSet id m) (onSet id m) :=
  coupled_onDevice fun a => coupled_map_eq _ (Device.coupled_seekSet (hm a))

/-! ### Calls that are answered the same -/

theorem coupled_readAdapterGroup :
    Coupled (Same core) Eq readAdapterGroup readAdapterGroup :=
  coupled_onGroup AdapterGroup.coupled_read

theorem coupled_readAdapter (i : Nat) :
    Coupled (Same core) Eq (readAdapter i) (readAdapter i) :=
  coupled_onGroup (coupled_map_eq _
    (AdapterGroup.coupled_seekAdapter (Adapter.coupled_read (.adapter i))))

theorem coupled_readDevice : Coupled (Same core) Eq readDevice readDevice :=
  coupled_onDevice fun a => Device.coupled_read (.device a)

theorem coupled_readConcurrentGroup (g : Nat) :
    Coupled (Same core) Eq (readConcurrentGroup g) (readConcurrentGroup g) :=
  coupled_onDevice fun a => coupled_map_eq _
    (Device.coupled_seekGroup (ConcurrentGroup.coupled_read (.concurrentGroup a g)))

theorem coupled_readMetricSet (id : MetricSetId) :
    Coupled (Same core) Eq (readMetricSet id) (readMetricSet id) :=
  coupled_onSet id fun a => MetricSet.coupled_read (.metricSet a id)

theorem coupled_readMetric (id : MetricSetId) (i : Nat) :
    Coupled (Same core) Eq (readMetric id i) (readMetric id i) :=
  coupled_onSet id fun a => coupled_map_eq _
    (MetricSet.coupled_seekMetric a id i (Metric.read (.metric a id i)))

/-- Two libraries with one core are read alike. -/
theorem reading_coupled : ReadingCoupled (Same core) where
  adapterGroup := coupled_readAdapterGroup
  adapter := coupled_readAdapter
  device := coupled_readDevice
  concurrentGroup := coupled_readConcurrentGroup
  metricSet := coupled_readMetricSet
  metric := coupled_readMetric

theorem coupled_activate (id : MetricSetId) :
    Coupled (Same core) Eq (activate id) (activate id) :=
  coupled_map_eq _ (coupled_onSet id fun a => coupled_map_eq _ (MetricSet.coupled_activate a id))

theorem coupled_openAdapters : Coupled (Same core) Eq openAdapters openAdapters := by
  refine coupled_bind coupled_get fun lib lib' h => ?_
  rw [h.reads Library.loaded fun _ => rfl, h.reads Library.groupOpen fun _ => rfl]
  split
  · exact coupled_pure rfl
  · split
    · exact coupled_pure rfl
    · refine coupled_bind_eq (coupled_onVendor State.coupled_openAdapters) fun r => ?_
      split
      · exact coupled_pure rfl
      · exact coupled_bind_eq (coupled_modify_same fun _ => rfl) fun _ => coupled_pure rfl

theorem coupled_openDevice (i : Nat) : Coupled (Same core) Eq (openDevice i) (openDevice i) := by
  have hseek := coupled_onGroup (AdapterGroup.coupled_seekAdapter (i := i)
    (Adapter.coupled_openDevice i))
  refine coupled_bind_eq hseek fun r => ?_
  split
  · exact coupled_pure rfl
  · split
    · exact coupled_pure rfl
    · -- the device is that of the latest tree, and both sides have served as many
      refine coupled_bind_eq (coupled_modify_same fun lib => ?_) fun _ => coupled_pure rfl
      simp [core, State.newest, State.core, Script.core]

/-! ### Calls that may be answered differently -/

theorem core_deactivate (id : MetricSetId) : Keeps core (deactivate id) :=
  obeys_map _ (core_onDevice fun a =>
    obeys_map _ (Device.core_seekSet (obeys_map _ (MetricSet.core_deactivate a id))))

theorem core_readClocks : Keeps core readClocks :=
  obeys_map _ (core_onDevice fun a => obeys_map _ (Device.core_readClocks a))

theorem coupled_closeDevice :
    Coupled (Same core) (fun _ _ => True) closeDevice closeDevice := by
  refine coupled_bind coupled_get fun lib lib' h => ?_
  rw [h.reads Library.device fun _ => rfl]
  cases lib'.device with
  | none => exact coupled_pure trivial
  | some d =>
    have hclose := core_onAdapter (d := d) (Adapter.core_closeDevice d.adapter)
    refine coupled_bind (coupled_of_keeps hclose hclose) fun _ _ _ => ?_
    exact coupled_bind_eq (coupled_modify_same fun _ => rfl) fun _ => coupled_pure trivial

theorem coupled_closeAdapters :
    Coupled (Same core) (fun _ _ => True) closeAdapters closeAdapters := by
  refine coupled_bind coupled_get fun lib lib' h => ?_
  rw [h.reads Library.groupOpen fun _ => rfl]
  split
  · have hclose := core_onVendor (State.core_onLatest AdapterGroup.core_close)
    refine coupled_bind (coupled_of_keeps hclose hclose) fun _ _ _ => ?_
    exact coupled_bind_eq (coupled_modify_same fun _ => rfl) fun _ => coupled_pure trivial
  · exact coupled_pure trivial

theorem coupled_letGo : Coupled (Same core) Eq letGo letGo := by
  refine coupled_bind coupled_get fun lib lib' h => ?_
  rw [h.reads Library.loaded fun _ => rfl, h.reads Library.unloadWarning? fun _ => rfl]
  split
  · refine coupled_bind_eq (coupled_emitAll [_] [_]) fun _ => ?_
    refine coupled_bind_eq (coupled_modify_same fun _ => rfl) fun _ => ?_
    cases lib'.unloadWarning? with
    | none => exact coupled_pure rfl
    | some warning => exact coupled_emitAll [_] [_]
  · exact coupled_pure rfl

theorem coupled_unload : Coupled (Same core) Eq unload unload := by
  refine coupled_bind coupled_closeDevice fun code code' _ => ?_
  refine coupled_bind_eq (coupled_warnUnlessOk _ code code') fun _ => ?_
  refine coupled_bind coupled_closeAdapters fun code code' _ => ?_
  exact coupled_bind_eq (coupled_warnUnlessOk _ code code') fun _ => coupled_letGo

end Library
end GpuMonitor
