import GpuMonitor.Proofs.Lifetime

/-!
# Metric sets left active

A session remembers one bit about activation, and the set that the bit is about is the one
selected now. So the deactivation at its release reaches the set that was left active only if
nothing else was selected in between.

* `LeftActive`: an activation was accepted, and no deactivation has succeeded since.
* `Settles`: a release deactivates what is left active, before it closes the device, and
  nothing else.
* `Owed`: what the bit of a session says about the trace; `owed_words` carries it through the
  cycles.

Main results:

* `release_settles_iff`: a release settles what is left active if and only if that is no other
  set than the one activated last, and it is still selected.
* `release_forgets_reselected`: a run on which it does not.
-/

namespace GpuMonitor

open Vendor

/-! ## Activations in a trace -/

namespace Event

/-- The metric set whose activation is accepted by the event. -/
def activated? : Event → Option MetricSetId
  | vendor (.activate _ id code) => if code.isAccepted then some id else none
  | _ => none

/-- The metric set whose deactivation succeeds by the event. -/
def deactivated? : Event → Option MetricSetId
  | vendor (.deactivate _ id code) => if code.isOk then some id else none
  | _ => none

/-- The event deactivates the set, whatever comes of it. -/
def IsDeactivation (id : MetricSetId) (e : Event) : Prop :=
  ∃ a code, e = .vendor (.deactivate a id code)

end Event

namespace Trace

/-- An activation of the set was accepted, and no deactivation of it has succeeded since. -/
def LeftActive (t : Trace) (id : MetricSetId) : Prop :=
  ∃ before e after, t = before ++ e :: after ∧ e.activated? = some id ∧
    ∀ e' ∈ after, e'.deactivated? ≠ some id

/-- The set whose activation was accepted last. -/
def lastActivated (t : Trace) : Option MetricSetId := t.reverse.findSome? Event.activated?

/-- After the trace `t`, the release `u` deactivates every set that is left active before it
closes the device, and it deactivates no other set. -/
structure Settles (t u : Trace) : Prop where
  covers : ∀ id, LeftActive t id → ∃ before e after, u = before ++ e :: after ∧
    e.IsDeactivation id ∧ ∃ a code, .vendor (.closeDevice a code) ∈ after
  onlyThose : ∀ id, ∀ e ∈ u, e.IsDeactivation id → LeftActive t id

theorem LeftActive.exists_mem {t : Trace} {id : MetricSetId} (h : LeftActive t id) :
    ∃ e ∈ t, e.activated? = some id := by
  obtain ⟨before, e, after, rfl, hactivated, -⟩ := h
  exact ⟨e, by simp, hactivated⟩

theorem lastActivated_snoc (t : Trace) (e : Event) :
    lastActivated (t ++ [e]) = e.activated?.or t.lastActivated := by
  rw [lastActivated, List.reverse_append]
  show List.findSome? Event.activated? (e :: t.reverse) = _
  rw [List.findSome?_cons]
  cases e.activated? <;> rfl

/-- An event leaves a set active that it activates, and one that was left active and that it
does not deactivate. -/
theorem leftActive_snoc {t : Trace} {e : Event} {id : MetricSetId} :
    LeftActive (t ++ [e]) id ↔
      e.activated? = some id ∨ LeftActive t id ∧ e.deactivated? ≠ some id := by
  constructor
  · -- the activation is the last event itself, or it stands before it
    rintro ⟨before, e', after, hsplit, hactivated, hafter⟩
    rcases List.eq_nil_or_concat after with rfl | ⟨after, last, rfl⟩
    · obtain ⟨-, hlast⟩ := List.append_inj' hsplit rfl
      cases hlast
      exact .inl hactivated
    · have hsplit' : t ++ [e] = (before ++ e' :: after) ++ [last] := by simpa using hsplit
      obtain ⟨rfl, hlast⟩ := List.append_inj' hsplit' rfl
      cases hlast
      refine .inr ⟨⟨before, e', after, rfl, hactivated, fun e'' he'' => ?_⟩, ?_⟩
      · exact hafter e'' (by simp [he''])
      · exact hafter e (by simp)
  · rintro (hactivated | ⟨⟨before, e', after, rfl, hactivated, hafter⟩, hno⟩)
    · exact ⟨t, e, [], rfl, hactivated, nofun⟩
    · refine ⟨before, e', after ++ [e], by simp, hactivated, fun e'' he'' => ?_⟩
      rcases List.mem_append.1 he'' with hmem | hmem
      · exact hafter e'' hmem
      · rw [List.mem_singleton.1 hmem]
        exact hno

end Trace

/-! ## What the bit of a session says -/

/-- A deactivation is owed exactly if the set activated last is left active. -/
def Owed (pending : Bool) (t : Trace) : Prop :=
  pending = true ↔ ∃ id, t.lastActivated = some id ∧ t.LeftActive id

namespace Cycle

/-- A cycle owes a deactivation, or has settled it, for the set that it activates. -/
theorem owed_word {pending : Bool} {t : Trace} (h : Owed pending t) (a : Nat) (c : Cycle) :
    Owed (c.owes pending) (t ++ c.word a) := by
  cases c with
  | refused id code hcode =>
    have hnone : (Event.vendor (.activate a id code)).activated? = none := by
      simp [Event.activated?, hcode]
    have hno : (Event.vendor (.activate a id code)).deactivated? = none := rfl
    simpa [Owed, word, owes, Trace.lastActivated_snoc, Trace.leftActive_snoc, hnone, hno] using h
  | full id code hcode clock window ending =>
    -- whatever was owed before, the set of this cycle is now the one activated last
    have hsplit : t ++ (full id code hcode clock window ending).word a =
        t ++ [.vendor (.activate a id code)] ++ [.vendor (.readClocks a clock)] ++
          [.wait window] ++ [.vendor (.deactivate a id ending)] := by
      simp [word]
    have hlast : (t ++ (full id code hcode clock window ending).word a).lastActivated =
        some id := by
      rw [hsplit]
      simp only [Trace.lastActivated_snoc]
      simp [Event.activated?, hcode]
    have hleft : (t ++ (full id code hcode clock window ending).word a).LeftActive id ↔
        ending.isOk = false := by
      rw [hsplit]
      simp only [Trace.leftActive_snoc]
      simp [Event.activated?, Event.deactivated?, hcode]
    simp [Owed, hlast, hleft, owes]

/-- The bit of a session says over all cycles whether the set activated last is left active. -/
theorem owed_words {pending : Bool} {t : Trace} (h : Owed pending t) (a : Nat)
    (cycles : List Cycle) : Owed (pendingAfter pending cycles) (t ++ words a cycles) := by
  induction cycles generalizing pending t with
  | nil =>
    rw [words_nil, List.append_nil]
    exact h
  | cons c rest ih =>
    have hrest := ih (owed_word h a c)
    rw [List.append_assoc] at hrest
    exact hrest

end Cycle

/-! ## What a closing settles -/

/-- A closing deactivates the selected set if a deactivation is owed, and no other set. -/
theorem isDeactivation_closing {a : Nat} {owed : Bool} {selected : Option MetricSetId}
    {w : Trace} (h : Closing a owed selected w) (id : MetricSetId) :
    (∃ e ∈ w, e.IsDeactivation id) ↔ owed = true ∧ selected = some id := by
  obtain ⟨last, code, code', hlast, rfl⟩ := h
  cases owed with
  | false =>
    obtain rfl : last = [] := hlast
    simp [Event.IsDeactivation]
  | true =>
    obtain ⟨id', code'', rfl, rfl⟩ := hlast
    simp [Event.IsDeactivation]

/-- Every deactivation of a closing stands before the closing of the device. -/
theorem closeDevice_after {a : Nat} {owed : Bool} {selected : Option MetricSetId} {w : Trace}
    (h : Closing a owed selected w) {id : MetricSetId} {e : Event} (he : e ∈ w)
    (hd : e.IsDeactivation id) :
    ∃ before after, w = before ++ e :: after ∧ ∃ a code, .vendor (.closeDevice a code) ∈ after := by
  obtain ⟨last, code, code', -, rfl⟩ := h
  obtain ⟨a', code'', rfl⟩ := hd
  have hmem : .vendor (.deactivate a' id code'') ∈ last := by simpa using he
  obtain ⟨before, after, rfl⟩ := List.append_of_mem hmem
  refine ⟨before, after ++ _, by rw [List.append_assoc, List.cons_append], a, code, by simp⟩

/-- A closing settles a trace exactly if the sets left active are the one that it deactivates. -/
theorem settles_closing {a : Nat} {owed : Bool} {selected : Option MetricSetId} {w : Trace}
    (h : Closing a owed selected w) (t : Trace) :
    t.Settles w ↔ ∀ id, t.LeftActive id ↔ owed = true ∧ selected = some id := by
  constructor
  · intro hs id
    rw [← isDeactivation_closing h]
    constructor
    · intro hleft
      obtain ⟨before, e, after, hsplit, hd, -⟩ := hs.covers id hleft
      exact ⟨e, by simp [hsplit], hd⟩
    · rintro ⟨e, he, hd⟩
      exact hs.onlyThose id e he hd
  · intro hleft
    refine ⟨fun id hid => ?_, fun id e he hd => ?_⟩
    · obtain ⟨e, he, hd⟩ := (isDeactivation_closing h id).2 ((hleft id).1 hid)
      obtain ⟨before, after, hsplit, hclose⟩ := closeDevice_after h he hd
      exact ⟨before, e, after, hsplit, hd, hclose⟩
    · exact (hleft id).2 ((isDeactivation_closing h id).1 ⟨e, he, hd⟩)

/-- With the bit right about the set activated last, the closing is right about the sets left
active exactly if that set is the only one and still the selected one. -/
theorem settles_iff_of_owed {a : Nat} {owed : Bool} {selected : Option MetricSetId} {t w : Trace}
    (h : Closing a owed selected w) (ho : Owed owed t) :
    t.Settles w ↔ ∀ id, t.LeftActive id → selected = some id ∧ t.lastActivated = some id := by
  rw [settles_closing h]
  constructor
  · -- the set activated last is left active if one is owed, so it is the one deactivated
    intro hleft id hid
    obtain ⟨howed, hselected⟩ := (hleft id).1 hid
    obtain ⟨last, hlast, hlastLeft⟩ := ho.1 howed
    obtain ⟨-, hselected'⟩ := (hleft last).1 hlastLeft
    obtain rfl : last = id := Option.some.inj (hselected'.symm.trans hselected)
    exact ⟨hselected, hlast⟩
  · intro honly id
    constructor
    · intro hid
      obtain ⟨hselected, hlast⟩ := honly id hid
      exact ⟨ho.2 ⟨id, hlast, hid⟩, hselected⟩
    · rintro ⟨howed, hselected⟩
      obtain ⟨last, hlast, hlastLeft⟩ := ho.1 howed
      obtain ⟨hselected', -⟩ := honly last hlastLeft
      obtain rfl : last = id := Option.some.inj (hselected'.symm.trans hselected)
      exact hlastLeft

namespace Session

/--
**When a release settles what is left active.** After a start that succeeds and every history
of operations:

* a session that is not released yet deactivates at its release the sets that are left
  active, before it closes the device, and no other set, if and only if no set is left active
  but the one that was activated last, and that one is still selected;
* a session that is released makes no call when it is released again;
* the end of a session makes the calls of a release.
-/
theorem release_settles_iff {loader : Loader} {candidates : List Path} {lib : Library}
    {s₀ : Session Library} (hload : (Library.load loader candidates).value = .ok lib)
    (hstart : (start lib).value = .ok s₀) (ops : List Operation) :
    let s := (performAll ops s₀).value.2
    let t := ((start lib).trace ++ (performAll ops s₀).trace).lifecycle
    (s.released = false → (t.Settles (release s).trace.lifecycle ↔
      ∀ id, t.LeftActive id → s.selected = some id ∧ t.lastActivated = some id)) ∧
    (s.released = true → (release s).trace = []) ∧
    (finish s).trace.lifecycle = (release s).trace.lifecycle := by
  intro s t
  obtain ⟨i, hinUse, hactive, hopened⟩ := inUse_of_start hload hstart
  obtain ⟨cycles, ⟨hs, htrace, howed⟩ | ⟨hover, -⟩⟩ :=
    (performAll_advances i ops s₀).whenInUse hinUse
  · obtain ⟨hclosing, -, hover⟩ := release_inUse hs
    -- nothing is activated before the first cycle
    have hstartOwed : Owed false (start lib).trace.lifecycle := by
      have hnone : Trace.lastActivated [.vendor (.openAdapters .ok true),
          .vendor (.openDevice i .ok true)] = none := rfl
      rw [hopened]
      simp [Owed, hnone]
    have hOwed : Owed s.active t := by
      show Owed s.active ((start lib).trace ++ (performAll ops s₀).trace).lifecycle
      rw [Trace.lifecycle_append, htrace, howed, hactive]
      exact Cycle.owed_words hstartOwed i cycles
    refine ⟨fun _ => settles_iff_of_owed hclosing hOwed, fun h => ?_, by rw [(finish_of_gone hover.gone).2]⟩
    rw [hs.released] at h
    cases h
  · refine ⟨fun h => ?_, fun _ => by rw [release_of_released hover.released], ?_⟩
    · rw [hover.released] at h
      cases h
    · rw [(finish_over hover).2, release_of_released hover.released]

/-! ### On the library with two sets -/

/-- A session that has started on the library with two sets. -/
def onTwoSets : Session Library := (openAll { gateway := Library.ofTwoSets }).value.2

theorem start_twoSets : (start Library.ofTwoSets).value = .ok onTwoSets := by
  have hopen : (openAll { gateway := Library.ofTwoSets }).value.1 = .ok () := rfl
  exact (start_ok hopen).1

/-- What a start and a sample of the first set leave: its deactivation fails. -/
def firstSampled : Trace :=
  [.vendor (.openAdapters .ok true), .vendor (.openDevice 0 .ok true),
    .vendor (.activate 0 ⟨0, 0⟩ .ok), .vendor (.readClocks 0 .ok), .wait defaultWindow,
    .vendor (.deactivate 0 ⟨0, 0⟩ .errorGeneral)]

theorem leftActive_firstSampled {id : MetricSetId} :
    firstSampled.LeftActive id ↔ id = ⟨0, 0⟩ := by
  constructor
  · intro hid
    obtain ⟨e, he, hactivated⟩ := hid.exists_mem
    have honly : ∀ e ∈ firstSampled, e.activated?.getD ⟨0, 0⟩ = ⟨0, 0⟩ := by decide
    have hone := honly e he
    rw [hactivated] at hone
    exact hone
  · rintro rfl
    exact ⟨[.vendor (.openAdapters .ok true), .vendor (.openDevice 0 .ok true)], _, _, rfl, rfl,
      by decide⟩

/-- The first set is left active by its sample. It is still selected, so the release settles
it. -/
theorem release_settles_twoSets :
    (Library.load (fun _ => .opens Library.twoSets) [⟨[]⟩]).value = .ok Library.ofTwoSets ∧
    (start Library.ofTwoSets).value = .ok onTwoSets ∧
    firstSampled.LeftActive ⟨0, 0⟩ ∧
    firstSampled.Settles
      (release (performAll [.select, .sample] onTwoSets).value.2).trace.lifecycle := by
  have hload : (Library.load (fun _ => .opens Library.twoSets) [⟨[]⟩]).value =
      .ok Library.ofTwoSets := rfl
  have hlife : ((start Library.ofTwoSets).trace ++
      (performAll [.select, .sample] onTwoSets).trace).lifecycle = firstSampled := by
    decide +kernel
  have hselected : (performAll [.select, .sample] onTwoSets).value.2.selected = some ⟨0, 0⟩ := by
    decide +kernel
  obtain ⟨hsettles, -, -⟩ := release_settles_iff hload start_twoSets [.select, .sample]
  rw [hlife, hselected] at hsettles
  refine ⟨hload, start_twoSets, leftActive_firstSampled.2 rfl, ?_⟩
  refine (hsettles (by decide +kernel)).2 fun id hid => ?_
  obtain rfl : id = ⟨0, 0⟩ := leftActive_firstSampled.1 hid
  exact ⟨rfl, rfl⟩

/-- **A release forgets a set that is left active.** The first set is left active by its sample,
and then the second one is selected: the release deactivates the second one. -/
theorem release_forgets_reselected :
    (start Library.ofTwoSets).value = .ok onTwoSets ∧
    ((start Library.ofTwoSets).trace ++
      (performAll [.select, .sample, .select] onTwoSets).trace).lifecycle = firstSampled ∧
    (release (performAll [.select, .sample, .select] onTwoSets).value.2).trace.lifecycle =
      [.vendor (.deactivate 0 ⟨0, 1⟩ .ok), .vendor (.closeDevice 0 .ok),
        .vendor (.closeAdapters .ok), .vendor .unload] ∧
    firstSampled.LeftActive ⟨0, 0⟩ ∧
    ¬firstSampled.Settles
      (release (performAll [.select, .sample, .select] onTwoSets).value.2).trace.lifecycle := by
  have hrelease :
      (release (performAll [.select, .sample, .select] onTwoSets).value.2).trace.lifecycle =
      [.vendor (.deactivate 0 ⟨0, 1⟩ .ok), .vendor (.closeDevice 0 .ok),
        .vendor (.closeAdapters .ok), .vendor .unload] := by decide +kernel
  rw [hrelease]
  have hleft : firstSampled.LeftActive ⟨0, 0⟩ := leftActive_firstSampled.2 rfl
  refine ⟨start_twoSets, by decide +kernel, rfl, hleft, fun hsettles => ?_⟩
  -- a deactivation of the second set is all that there is
  have honly := hsettles.onlyThose ⟨0, 1⟩ _ (List.mem_cons_self ..) ⟨0, .ok, rfl⟩
  have heq := leftActive_firstSampled.1 honly
  cases heq

end Session
end GpuMonitor
