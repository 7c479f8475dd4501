import GpuMonitor.Proofs.Action
import GpuMonitor.Vendor.Service

/-!
# What the use of a metrics library leaves alone

Using a metrics library uses up codes and readings. All else that a tree says lasts: which
objects there are, their names, the counts that they report. And a call makes itself known:
looking a child up and reading parameters leave no call of the lifecycle in the trace.

* `lasting`: an object without what is used up. `keeps_*`: every action keeps it.
* `Event.isLook`, `Event.isService`: lookups and readings; all that reaches the library
  while it is loaded. `emits_*`: what the actions emit.
* `Trace.lifecycle`: the calls of the lifecycle and the waits of a trace.
* `Device.metricSet?`: the metric set at a place, on which `Device.seekSet` acts
  (`value_seekSet`, `trace_seekSet`).
-/

namespace GpuMonitor

variable {α β τ ω ω' : Type}

/-! ## The lifecycle in a trace -/

namespace Event

/-- The event is a call of the lifecycle or a wait. -/
def isLifecycle : Event → Bool
  | vendor call => call.text?.isSome
  | wait _ => true
  | _ => false

/-- The event is a lookup of a child or a reading of parameters. -/
def isLook : Event → Bool
  | vendor (.find ..) | vendor (.read ..) => true
  | _ => false

/-- The event reaches the metrics library, and is not its unloading. -/
def isService : Event → Bool
  | vendor .unload => false
  | vendor _ => true
  | _ => false

theorem isService_of_isLook {e : Event} (h : e.isLook = true) : e.isService = true := by
  unfold isLook at h
  split at h
  · rfl
  · rfl
  · cases h

theorem not_isLifecycle_of_isLook {e : Event} (h : e.isLook = true) : ¬ e.isLifecycle = true := by
  unfold isLook at h
  split at h
  · simp [isLifecycle, Vendor.Call.text?]
  · simp [isLifecycle, Vendor.Call.text?]
  · cases h

end Event

namespace Trace

/-- What a trace tells of the lifecycle. -/
def lifecycle (t : Trace) : Trace := t.filter Event.isLifecycle

@[simp] theorem lifecycle_nil : lifecycle [] = [] := rfl

@[simp] theorem lifecycle_append (t u : Trace) :
    lifecycle (t ++ u) = t.lifecycle ++ u.lifecycle := List.filter_append ..

@[simp] theorem lifecycle_cons_log (level : Level) (text : String) (t : Trace) :
    lifecycle (.log level text :: t) = t.lifecycle := rfl

@[simp] theorem lifecycle_cons_find (object : Vendor.Object) (found : Bool) (t : Trace) :
    lifecycle (.vendor (.find object found) :: t) = t.lifecycle := rfl

/-- The texts of the lifecycle are those of what the trace tells of it. -/
theorem lifecycleTexts_lifecycle (t : Trace) : t.lifecycle.lifecycleTexts = t.lifecycleTexts := by
  induction t with
  | nil => rfl
  | cons e t ih =>
    have hcons (u : Trace) : lifecycleTexts (e :: u) = e.lifecycleTexts ++ u.lifecycleTexts := rfl
    by_cases h : e.isLifecycle = true
    · rw [lifecycle, List.filter_cons_of_pos h, hcons, hcons, ← ih]
      rfl
    · have hnone : e.lifecycleTexts = [] := by
        cases e with
        | vendor call => simpa [Event.isLifecycle, Event.lifecycleTexts] using h
        | wait length => simp [Event.isLifecycle] at h
        | log level text => rfl
        | print stream text => rfl
      rw [lifecycle, List.filter_cons_of_neg h, hcons, hnone, ← ih]
      rfl

end Trace

namespace Vendor

/-! ## Reaching objects -/

section
variable {object : Object} {children : τ → List (Option β)} {keep : τ → List (Option β) → τ}
  {i : Nat} {m : Action β α}

theorem value_hold (p : τ) :
    (hold children keep i m p).value.1 = (children p)[i]?.join.map fun c => (m c).value.1 := by
  cases h : (children p)[i]?.join <;> simp [hold, h]

theorem trace_hold (p : τ) :
    (hold children keep i m p).trace = (children p)[i]?.join.elim [] fun c => (m c).trace := by
  cases h : (children p)[i]?.join <;> simp [hold, h]

@[simp] theorem value_seek (p : τ) :
    (seek object children keep i m p).value = (hold children keep i m p).value := rfl

@[simp] theorem trace_seek (p : τ) :
    (seek object children keep i m p).trace =
      .vendor (.find object (children p)[i]?.join.isSome) :: (hold children keep i m p).trace :=
  rfl

/-- The child at a place, when every child is changed. -/
theorem child_map (f : β → ω) (xs : List (Option β)) (i : Nat) :
    (xs.map (Option.map f))[i]?.join = xs[i]?.join.map f := by
  cases h : xs[i]? <;> simp [h]

/-- Replacing a child by one that is as the child was in some respect. -/
theorem map_set_child {f : β → ω} {xs : List (Option β)} {c c' : β}
    (h : xs[i]?.join = some c) (hc : f c' = f c) :
    (xs.set i (some c')).map (Option.map f) = xs.map (Option.map f) := by
  have hi : xs[i]? = some (some c) := by simpa [Option.join_eq_some_iff] using h
  refine List.ext_getElem? fun j => ?_
  rw [List.getElem?_map, List.getElem?_map, List.getElem?_set]
  split
  · next hj =>
    subst hj
    obtain ⟨hlt, hget⟩ := List.getElem?_eq_some_iff.1 hi
    simp [hlt, hget, hc]
  · rfl

theorem keeps_hold {f : β → ω} {F : τ → ω'} (hm : Keeps f m)
    (hF : ∀ p xs, xs.map (Option.map f) = (children p).map (Option.map f) → F (keep p xs) = F p) :
    Keeps F (hold children keep i m) := by
  intro p
  cases h : (children p)[i]?.join with
  | none => simp [hold, h]
  | some c =>
    simp only [hold, h]
    exact hF p _ (map_set_child h (hm c))

theorem keeps_seek {f : β → ω} {F : τ → ω'} (hm : Keeps f m)
    (hF : ∀ p xs, xs.map (Option.map f) = (children p).map (Option.map f) → F (keep p xs) = F p) :
    Keeps F (seek object children keep i m) := keeps_hold hm hF

theorem emits_hold {p : Event → Prop} (hm : Emits p m) : Emits p (hold children keep i m) := by
  intro s
  rw [trace_hold]
  cases (children s)[i]?.join with
  | none => simp
  | some c => exact hm c

theorem emits_seek {p : Event → Prop} (hm : Emits p m)
    (hp : ∀ found, p (.vendor (.find object found))) : Emits p (seek object children keep i m) := by
  intro s e he
  rw [trace_seek, List.mem_cons] at he
  rcases he with rfl | he
  · exact hp _
  · exact emits_hold hm s e he

end

/-- The child at a place after an action on it. -/
theorem child_hold {children : τ → List (Option β)}
    {keep : τ → List (Option β) → τ} (hkeep : ∀ p xs, children (keep p xs) = xs) (i : Nat)
    (m : Action β α) (p : τ) :
    (children (hold children keep i m p).value.2)[i]?.join =
      (children p)[i]?.join.map fun c => (m c).value.2 := by
  cases h : (children p)[i]?.join with
  | none =>
    have hleft : (hold children keep i m p).value.2 = p := by simp only [hold, h]
    rw [hleft, h]
    rfl
  | some c =>
    have hleft : (hold children keep i m p).value.2 =
        keep p ((children p).set i (some (m c).value.2)) := by simp only [hold, h]
    have hi : (children p)[i]? = some (some c) := by simpa [Option.join_eq_some_iff] using h
    obtain ⟨hlt, -⟩ := List.getElem?_eq_some_iff.1 hi
    rw [hleft, hkeep, List.getElem?_set_self hlt]
    rfl

/-- The other children stay as they are. -/
theorem child_hold_of_ne {children : τ → List (Option β)}
    {keep : τ → List (Option β) → τ} (hkeep : ∀ p xs, children (keep p xs) = xs) {i j : Nat}
    (hne : j ≠ i) (m : Action β α) (p : τ) :
    (children (hold children keep i m p).value.2)[j]?.join = (children p)[j]?.join := by
  cases h : (children p)[i]?.join with
  | none => simp only [hold, h]
  | some c => simp only [hold, h, hkeep, List.getElem?_set_ne hne.symm]

/-! ## Asking objects -/

section
variable {β π : Type} {object : Object} {left : β → Availability} {keep : β → Availability → β}
  {params : β → π}

theorem keeps_ask {F : β → ω} (hF : ∀ b a, F (keep b a) = F b) :
    Keeps F (ask object left keep params) := fun b => hF b _

theorem emits_ask {p : Event → Prop} (hp : ∀ given, p (.vendor (.read object given))) :
    Emits p (ask object left keep params) := by
  intro b e he
  obtain rfl := List.mem_singleton.1 he
  exact hp _

end

section
variable {call : β → CompletionCode → Call} {left : β → Codes} {keep : β → Codes → β}

theorem keeps_respond {F : β → ω} (hF : ∀ b c, F (keep b c) = F b) :
    Keeps F (respond call left keep) := fun b => hF b _

theorem emits_respond {p : Event → Prop} (hp : ∀ b code, p (.vendor (call b code))) :
    Emits p (respond call left keep) := by
  intro b e he
  obtain rfl := List.mem_singleton.1 he
  exact hp _ _

/-- The trace of a call that answers with a code is that call with that code. -/
theorem trace_respond (b : β) :
    (respond call left keep b).trace = [.vendor (call b (respond call left keep b).value.1)] := rfl

end

/-! ## What lasts -/

/-- A metric without what is used up. -/
def Metric.lasting (m : Metric) : Metric := { m with availability := .always }

/-- A metric set without what is used up. -/
def MetricSet.lasting (s : MetricSet) : MetricSet :=
  { s with
    metrics := s.metrics.map (Option.map Metric.lasting)
    activation := []
    deactivation := []
    availability := .always }

/-- A concurrent group without what is used up. -/
def ConcurrentGroup.lasting (g : ConcurrentGroup) : ConcurrentGroup :=
  { g with sets := g.sets.map (Option.map MetricSet.lasting), availability := .always }

/-- A device without what is used up. -/
def Device.lasting (d : Device) : Device :=
  { d with
    groups := d.groups.map (Option.map ConcurrentGroup.lasting)
    clockCodes := []
    availability := .always }

/-- An adapter without what is used up. -/
def Adapter.lasting (a : Adapter) : Adapter :=
  { a with opening := [], closing := [], device := a.device.lasting, availability := .always }

/-- An adapter group without what is used up. -/
def AdapterGroup.lasting (g : AdapterGroup) : AdapterGroup :=
  { g with
    adapters := g.adapters.map (Option.map Adapter.lasting)
    closing := []
    availability := .always }

/-- A metrics library in use without what is used up. -/
def State.lasting (v : State) : State :=
  { v with earlier := v.earlier.map AdapterGroup.lasting, latest := v.latest.lasting }

theorem Metric.keeps_read (object : Object) : Keeps lasting (read object) :=
  keeps_ask fun _ _ => rfl

namespace MetricSet

theorem keeps_read (object : Object) : Keeps lasting (read object) := keeps_ask fun _ _ => rfl

theorem keeps_seekMetric {a : Nat} {id : MetricSetId} {i : Nat} {m : Action Metric α}
    (hm : Keeps Metric.lasting m) : Keeps lasting (seekMetric a id i m) :=
  keeps_seek hm fun _ _ h => by simp [lasting, h]

theorem keeps_activate (a : Nat) (id : MetricSetId) : Keeps lasting (activate a id) :=
  keeps_respond fun _ _ => rfl

theorem keeps_deactivate (a : Nat) (id : MetricSetId) : Keeps lasting (deactivate a id) :=
  keeps_respond fun _ _ => rfl

end MetricSet

namespace ConcurrentGroup

theorem keeps_read (object : Object) : Keeps lasting (read object) := keeps_ask fun _ _ => rfl

theorem keeps_seekSet {a : Nat} {id : MetricSetId} {m : Action MetricSet α}
    (hm : Keeps MetricSet.lasting m) : Keeps lasting (seekSet a id m) :=
  keeps_seek hm fun _ _ h => by simp [lasting, h]

end ConcurrentGroup

namespace Device

theorem keeps_read (object : Object) : Keeps lasting (read object) := keeps_ask fun _ _ => rfl

theorem keeps_seekGroup {a g : Nat} {m : Action ConcurrentGroup α}
    (hm : Keeps ConcurrentGroup.lasting m) : Keeps lasting (seekGroup a g m) :=
  keeps_seek hm fun _ _ h => by simp [lasting, h]

theorem keeps_seekSet {a : Nat} {id : MetricSetId} {m : Action MetricSet α}
    (hm : Keeps MetricSet.lasting m) : Keeps lasting (seekSet a id m) :=
  obeys_map _ (keeps_seekGroup (ConcurrentGroup.keeps_seekSet hm))

theorem keeps_readClocks (a : Nat) : Keeps lasting (readClocks a) :=
  obeys_bind (composes_keeps _) (keeps_respond fun _ _ => rfl) fun _ =>
    obeys_bind (composes_keeps _) (obeys_get (composes_keeps _)) fun _ =>
      obeys_pure (composes_keeps _) _

end Device

namespace Adapter

theorem keeps_read (object : Object) : Keeps lasting (read object) := keeps_ask fun _ _ => rfl

theorem keeps_openDevice (i : Nat) : Keeps lasting (openDevice i) :=
  obeys_bind (composes_keeps _) (keeps_respond fun _ _ => rfl) fun _ =>
    obeys_bind (composes_keeps _) (obeys_get (composes_keeps _)) fun _ =>
      obeys_pure (composes_keeps _) _

theorem keeps_closeDevice (i : Nat) : Keeps lasting (closeDevice i) :=
  keeps_respond fun _ _ => rfl

theorem keeps_onDevice {m : Action Device α} (hm : Keeps Device.lasting m) :
    Keeps lasting (onDevice m) := keeps_within hm fun _ _ h => by simp [lasting, h]

end Adapter

namespace AdapterGroup

theorem keeps_read : Keeps lasting read := keeps_ask fun _ _ => rfl

theorem keeps_seekAdapter {i : Nat} {m : Action Adapter α} (hm : Keeps Adapter.lasting m) :
    Keeps lasting (seekAdapter i m) := keeps_seek hm fun _ _ h => by simp [lasting, h]

theorem keeps_holdAdapter {i : Nat} {m : Action Adapter α} (hm : Keeps Adapter.lasting m) :
    Keeps lasting (holdAdapter i m) := keeps_hold hm fun _ _ h => by simp [lasting, h]

theorem keeps_close : Keeps lasting close := keeps_respond fun _ _ => rfl

end AdapterGroup

namespace State

theorem lasting_putTree {n : Nat} {v : State} {g : AdapterGroup}
    (h : g.lasting = (v.tree n).lasting) : (v.putTree n g).lasting = v.lasting := by
  unfold putTree
  -- an earlier tree is put back among the earlier ones, and else it is the latest
  split
  · next hn =>
    have htree : v.tree n = v.earlier[n] := by simp [tree, hn]
    rw [htree] at h
    simp only [lasting, State.mk.injEq, true_and, and_true]
    refine List.ext_getElem (by simp) fun j hj hj' => ?_
    simp only [List.getElem_map, List.getElem_set]
    split
    · next hjn =>
      subst hjn
      exact h
    · rfl
  · next hn =>
    have htree : v.tree n = v.latest := by simp [tree, hn]
    rw [htree] at h
    simp [lasting, h]

theorem keeps_onTree {n : Nat} {m : Action AdapterGroup α} (hm : Keeps AdapterGroup.lasting m) :
    Keeps lasting (onTree n m) := keeps_within hm fun _ _ h => lasting_putTree h

theorem keeps_onLatest {m : Action AdapterGroup α} (hm : Keeps AdapterGroup.lasting m) :
    Keeps lasting (onLatest m) := keeps_within hm fun _ _ h => by simp [lasting, h]

theorem tree_lasting (n : Nat) (v : State) : v.lasting.tree n = (v.tree n).lasting := by
  by_cases h : n < v.earlier.length <;> simp [tree, lasting, h]

end State

/-! ## Metric sets of a device -/

namespace Device

/-- What is left of the metric set at a place. -/
def metricSet? (id : MetricSetId) (d : Device) : Option MetricSet :=
  d.groups[id.group]?.join.bind fun g => g.sets[id.set]?.join

theorem metricSet?_lasting (id : MetricSetId) (d : Device) :
    d.lasting.metricSet? id = (d.metricSet? id).map MetricSet.lasting := by
  simp only [metricSet?, lasting, child_map]
  cases d.groups[id.group]?.join with
  | none => rfl
  | some g => exact child_map ..

theorem value_seekSet (a : Nat) (id : MetricSetId) (m : Action MetricSet α) (d : Device) :
    (seekSet a id m d).value.1 = (d.metricSet? id).map fun s => (m s).value.1 := by
  simp only [seekSet, seekGroup, ConcurrentGroup.seekSet, metricSet?, Action.value_map, value_seek,
    value_hold]
  cases d.groups[id.group]?.join <;> rfl

/-- The lookups by which a metric set is reached. -/
def reaching (a : Nat) (id : MetricSetId) : Trace :=
  [.vendor (.find (.concurrentGroup a id.group) true), .vendor (.find (.metricSet a id) true)]

theorem trace_seekSet {id : MetricSetId} {d : Device} {s : MetricSet}
    (h : d.metricSet? id = some s) (a : Nat) (m : Action MetricSet α) :
    (seekSet a id m d).trace = reaching a id ++ (m s).trace := by
  obtain ⟨g, hg, hs⟩ := Option.bind_eq_some_iff.1 h
  simp [seekSet, seekGroup, ConcurrentGroup.seekSet, reaching, trace_hold, hg, hs]

theorem emits_seekSet {p : Event → Prop} {a : Nat} {id : MetricSetId} {m : Action MetricSet α}
    (hm : Emits p m) (hp : ∀ object found, p (.vendor (.find object found))) :
    Emits p (seekSet a id m) := obeys_map _ (emits_seek (emits_seek hm (hp _)) (hp _))

/-- Reading the clocks is one call, and its code decides whether their times are had. -/
theorem readClocks_spec (a : Nat) (d : Device) :
    ∃ code, (readClocks a d).trace = [.vendor (.readClocks a code)] ∧
      (readClocks a d).value.1 = code.toExcept.map fun _ => d.clocks :=
  ⟨_, rfl, rfl⟩

theorem emits_readClocks {p : Event → Prop} (a : Nat)
    (hp : ∀ code, p (.vendor (.readClocks a code))) : Emits p (readClocks a) :=
  obeys_bind (composes_emits _) (emits_respond fun _ => hp) fun _ =>
    obeys_bind (composes_emits _) (obeys_get (composes_emits _)) fun _ =>
      obeys_pure (composes_emits _) _

end Device

theorem Adapter.emits_openDevice {p : Event → Prop} (i : Nat)
    (hp : ∀ code given, p (.vendor (.openDevice i code given))) : Emits p (openDevice i) :=
  obeys_bind (composes_emits _) (emits_respond fun _ _ => hp _ _) fun _ =>
    obeys_bind (composes_emits _) (obeys_get (composes_emits _)) fun _ =>
      obeys_pure (composes_emits _) _

end Vendor
end GpuMonitor
