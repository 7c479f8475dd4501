import GpuMonitor.Proofs.Unloading

/-!
# The device that a library holds

A library keeps the place of one open device. What an operation calls is told here by the
adapter of that device, as it is before the operation (`Library.holding`).

* `Vendor.Call.Within`: a call that opens and closes nothing, and goes through no device
  but the one that is held.
* `Rooted`: the adapter of an open device is still found where the device was opened. It is
  what closing a device needs to reach the metrics library.
* `Keeping`: the held device stays held, and every call is within it. All operations but four
  obey it (`keeping_perform`); what the others can do is said by `openDevice_cases`,
  `closeDevice_cases`, `closeAdapters_cases` and by the parts of `unload`.
-/

namespace GpuMonitor

open Vendor

variable {α : Type}

namespace Vendor

/-- The adapter whose device an object is or lies below. -/
def Object.device? : Object → Option Nat
  | .device a | .concurrentGroup a _ | .metricSet a _ | .metric a _ _ => some a
  | .adapterGroup | .adapter _ => none

namespace Call

/-- The adapter whose device a call goes through or closes. -/
def device? : Call → Option Nat
  | .find object _ | .read object _ => object.device?
  | .activate a _ _ | .deactivate a _ _ | .readClocks a _ | .closeDevice a _ => some a
  | .openAdapters .. | .openDevice .. | .closeAdapters _ | .unload => none

/-- The call hands out a device, or closes one, or closes the adapter group. -/
def turns : Call → Bool
  | .openDevice _ .ok true | .closeDevice .. | .closeAdapters _ => true
  | _ => false

/-- Nothing is opened or closed, and no device is used but the one that is held. -/
def Within (held : Option Nat) (c : Call) : Prop :=
  c.turns = false ∧ ∀ a ∈ c.device?, held = some a

end Call

end Vendor

/-- The request opens a device, or closes one, or closes the adapter group. -/
def Gateway.Request.turns : Gateway.Request → Bool
  | .openDevice _ | .closeDevice | .closeAdapters | .unload => true
  | _ => false

namespace Library

/-- The adapter of the open device. -/
def holding (lib : Library) : Option Nat := lib.device.map OpenDevice.adapter

/-- The adapter of an open device is found in the tree that the device is from. -/
def Rooted (lib : Library) : Prop :=
  ∀ d, lib.device = some d → d.tree ≤ lib.vendor.newest ∧ ∃ dev, lib.Opened d.adapter dev

theorem rooted_of_none {lib : Library} (h : lib.device = none) : lib.Rooted := by
  intro d hd
  rw [h] at hd
  cases hd

theorem newest_of_lasting {lib lib' : Library} (h : lib'.lasting = lib.lasting) :
    lib'.vendor.newest = lib.vendor.newest := by
  have hearlier : lib'.vendor.earlier.map AdapterGroup.lasting =
      lib.vendor.earlier.map AdapterGroup.lasting := congrArg (fun l => l.vendor.earlier) h
  simpa [State.newest] using congrArg List.length hearlier

theorem holding_of_lasting {lib lib' : Library} (h : lib'.lasting = lib.lasting) :
    lib'.holding = lib.holding := by
  rw [holding, holding, (open_of_lasting h).2.2]

theorem Rooted.of_lasting {lib lib' : Library} (hr : lib.Rooted)
    (h : lib'.lasting = lib.lasting) : lib'.Rooted := by
  intro d hd
  rw [(open_of_lasting h).2.2] at hd
  obtain ⟨hle, dev, hopen⟩ := hr d hd
  obtain ⟨dev', hopen', -⟩ := hopen.of_lasting h
  exact ⟨(newest_of_lasting h).symm ▸ hle, dev', hopen'⟩

/-! ## What keeps to the held device -/

/-- The held device stays held, and every call is within it. -/
def Keeping (lib : Library) (t : Trace) (lib' : Library) : Prop :=
  lib.Rooted → lib'.Rooted ∧ lib'.holding = lib.holding ∧ ∀ c ∈ t.calls, c.Within lib.holding

theorem composes_keeping : Composes Keeping where
  nil _ hr := ⟨hr, rfl, by simp [Trace.calls]⟩
  append h h' hr := by
    obtain ⟨hr', hheld, hcalls⟩ := h hr
    obtain ⟨hr'', hheld', hcalls'⟩ := h' hr'
    refine ⟨hr'', hheld'.trans hheld, fun c hc => ?_⟩
    rw [Trace.calls_append, List.mem_append] at hc
    rcases hc with hc | hc
    · exact hcalls c hc
    · exact hheld ▸ hcalls' c hc

/-- The event is within what is held, if it is a call. -/
def Inside (held : Option Nat) (e : Event) : Prop := ∀ c ∈ e.call?, c.Within held

theorem within_of_inside {held : Option Nat} {t : Trace} (h : ∀ e ∈ t, Inside held e) :
    ∀ c ∈ t.calls, c.Within held := by
  intro c hc
  obtain ⟨e, he, hcall⟩ := List.mem_filterMap.1 hc
  exact h e he c hcall

theorem inside_of_call {held : Option Nat} {c : Call} (h : c.Within held) :
    Inside held (.vendor c) := by
  intro c' hc
  obtain rfl : c = c' := by simpa [Event.call?] using hc
  exact h

/-- Finding and reading an object that lies below no device is within anything. -/
theorem inside_find {held : Option Nat} {object : Object} (h : ∀ a ∈ object.device?, held = some a)
    (found : Bool) : Inside held (.vendor (.find object found)) := inside_of_call ⟨rfl, h⟩

theorem inside_read {held : Option Nat} {object : Object} (h : ∀ a ∈ object.device?, held = some a)
    (given : Bool) : Inside held (.vendor (.read object given)) := inside_of_call ⟨rfl, h⟩

theorem keeping_of_using {lib lib' : Library} {t : Trace} (hl : lib'.lasting = lib.lasting)
    (h : ∀ e ∈ t, Inside lib.holding e) : Keeping lib t lib' := fun hr =>
  ⟨hr.of_lasting hl, holding_of_lasting hl, within_of_inside h⟩

theorem keeping_onGroup {m : Action AdapterGroup (Option α)} (hk : Keeps AdapterGroup.lasting m)
    (he : ∀ held, Emits (Inside held) m) : Obeys Keeping (onGroup m) := by
  intro lib
  obtain ⟨hl, hemits⟩ := using_onGroup hk (he lib.holding) lib
  exact keeping_of_using hl hemits

/-- What is done on the open device goes through the device that is held. -/
theorem keeping_onDevice {m : Nat → Action Device (Option α)}
    (hk : ∀ a, Keeps Device.lasting (m a)) (he : ∀ a, Emits (Inside (some a)) (m a)) :
    Obeys Keeping (onDevice m) := by
  intro lib
  obtain ⟨hl, -⟩ := using_onDevice (p := fun _ => True) hk (fun _ _ _ _ => trivial) lib
  intro hr
  refine keeping_of_using hl ?_ hr
  -- with no device open nothing is called at all
  cases hd : lib.device with
  | none =>
    have htrace : (onDevice m lib).trace = [] := by simp [onDevice, hd]
    simp [htrace]
  | some d =>
    obtain ⟨-, dev, hopen⟩ := hr d hd
    have hheld : lib.holding = some d.adapter := by simp [holding, hd]
    rw [trace_onDevice hopen, hheld]
    exact he d.adapter dev

theorem keeping_onSet {id : MetricSetId} {m : Nat → Action MetricSet (Option α)}
    (hk : ∀ a, Keeps MetricSet.lasting (m a)) (he : ∀ a, Emits (Inside (some a)) (m a)) :
    Obeys Keeping (onSet id m) := by
  refine keeping_onDevice (fun a => obeys_map _ (Device.keeps_seekSet (hk a))) fun a => ?_
  refine obeys_map _ (obeys_map _ (emits_seek (emits_seek (he a) ?_) ?_))
  · exact inside_find (by simp [Object.device?])
  · exact inside_find (by simp [Object.device?])

/-! ### The operations -/

theorem keeping_readAdapterGroup : Obeys Keeping readAdapterGroup :=
  keeping_onGroup AdapterGroup.keeps_read fun _ =>
    emits_ask (inside_read (by simp [Object.device?]))

theorem keeping_readAdapter (i : Nat) : Obeys Keeping (readAdapter i) :=
  keeping_onGroup (obeys_map _ (AdapterGroup.keeps_seekAdapter (Adapter.keeps_read _))) fun _ =>
    obeys_map _ (emits_seek (emits_ask (inside_read (by simp [Object.device?])))
      (inside_find (by simp [Object.device?])))

theorem keeping_readDevice : Obeys Keeping readDevice :=
  keeping_onDevice (fun _ => Device.keeps_read _) fun _ =>
    emits_ask (inside_read (by simp [Object.device?]))

theorem keeping_readConcurrentGroup (g : Nat) : Obeys Keeping (readConcurrentGroup g) :=
  keeping_onDevice (fun _ => obeys_map _ (Device.keeps_seekGroup (ConcurrentGroup.keeps_read _)))
    fun _ => obeys_map _ (emits_seek (emits_ask (inside_read (by simp [Object.device?])))
      (inside_find (by simp [Object.device?])))

theorem keeping_readMetricSet (id : MetricSetId) : Obeys Keeping (readMetricSet id) :=
  keeping_onSet (fun _ => MetricSet.keeps_read _) fun _ =>
    emits_ask (inside_read (by simp [Object.device?]))

theorem keeping_readMetric (id : MetricSetId) (i : Nat) : Obeys Keeping (readMetric id i) :=
  keeping_onSet (fun _ => obeys_map _ (MetricSet.keeps_seekMetric (Metric.keeps_read _)))
    fun _ => obeys_map _ (emits_seek (emits_ask (inside_read (by simp [Object.device?])))
      (inside_find (by simp [Object.device?])))

theorem keeping_activate (id : MetricSetId) : Obeys Keeping (activate id) :=
  obeys_map _ (keeping_onSet (fun _ => obeys_map _ (MetricSet.keeps_activate _ _)) fun _ =>
    obeys_map _ (emits_respond fun _ _ => inside_of_call ⟨rfl, by simp [Call.device?]⟩))

theorem keeping_deactivate (id : MetricSetId) : Obeys Keeping (deactivate id) :=
  obeys_map _ (keeping_onSet (fun _ => obeys_map _ (MetricSet.keeps_deactivate _ _)) fun _ =>
    obeys_map _ (emits_respond fun _ _ => inside_of_call ⟨rfl, by simp [Call.device?]⟩))

theorem keeping_readClocks : Obeys Keeping readClocks :=
  obeys_map _ (keeping_onDevice (fun _ => obeys_map _ (Device.keeps_readClocks _)) fun _ =>
    obeys_map _ (Device.emits_readClocks _ fun _ => inside_of_call ⟨rfl, by simp [Call.device?]⟩))

/-- The trees before the latest one stay what they are when another one is served. -/
theorem tree_openAdapters {v : State} {n : Nat} (h : n ≤ v.newest) :
    (State.openAdapters v).value.2.tree n = v.tree n := by
  rcases Nat.lt_or_eq_of_le h with hlt | rfl
  · have hlt' : n < v.earlier.length := hlt
    simp [State.openAdapters, State.tree, List.getElem?_append, hlt']
  · simp [State.openAdapters, State.tree, State.newest]

theorem keeping_openAdapters : Obeys Keeping openAdapters := by
  refine obeys_bind composes_keeping (obeys_get composes_keeping) fun lib => ?_
  split
  · exact obeys_pure composes_keeping _
  · split
    · exact obeys_pure composes_keeping _
    · refine obeys_bind composes_keeping (fun lib hr => ⟨fun d hd => ?_, rfl, ?_⟩) fun r => ?_
      · -- the open device is from a tree that was served before
        obtain ⟨hle, dev, n, ad, hdev, had, hadev⟩ := hr d hd
        obtain rfl : n = d.tree := congrArg OpenDevice.tree (Option.some.inj (hdev.symm.trans hd))
        refine ⟨?_, dev, d.tree, ad, hd, ?_, hadev⟩
        · simp only [onVendor, Action.value_within, State.openAdapters, State.newest,
            List.length_append] at hle ⊢
          omega
        · simp only [onVendor, Action.value_within]
          rw [tree_openAdapters hle]
          exact had
      · simp [onVendor, State.openAdapters, Trace.calls, Event.call?, Call.Within, Call.turns,
          Call.device?]
      · split
        · exact obeys_pure composes_keeping _
        · exact obeys_bind composes_keeping (obeys_modify fun lib hr => ⟨hr, rfl, by
            simp [Trace.calls]⟩) fun _ => obeys_pure composes_keeping _

theorem keeping_letGo : Obeys Keeping letGo := by
  intro lib
  cases hl : lib.loaded with
  | false =>
    rw [letGo_of_unloaded hl]
    exact composes_keeping.nil lib
  | true =>
    rw [letGo_of_loaded hl]
    refine fun hr => ⟨hr, rfl, ?_⟩
    rw [calls_unloading]
    simp [Call.Within, Call.turns, Call.device?]

theorem keeping_warnUnlessOk (what : String) (code : CompletionCode) :
    Obeys Keeping (warnUnlessOk (σ := Library) what code) := by
  intro lib hr
  rw [calls_warnUnlessOk, value_warnUnlessOk]
  exact ⟨hr, rfl, by simp⟩

/-- Every request keeps to the held device, unless it may turn what is held or closes the adapter
group. -/
theorem keeping_perform {r : Gateway.Request} (h : r.turns = false) :
    Obeys Keeping (Gateway.perform (γ := Library) r) := by
  cases r with
  | openAdapters => exact obeys_map _ keeping_openAdapters
  | readAdapterGroup => exact obeys_map _ keeping_readAdapterGroup
  | readAdapter i => exact obeys_map _ (keeping_readAdapter i)
  | openDevice i => cases h
  | readDevice => exact obeys_map _ keeping_readDevice
  | readConcurrentGroup g => exact obeys_map _ (keeping_readConcurrentGroup g)
  | readMetricSet id => exact obeys_map _ (keeping_readMetricSet id)
  | readMetric id i => exact obeys_map _ (keeping_readMetric id i)
  | activate id => exact obeys_map _ (keeping_activate id)
  | deactivate id => exact obeys_map _ (keeping_deactivate id)
  | readClocks => exact obeys_map _ keeping_readClocks
  | closeDevice => cases h
  | closeAdapters => cases h
  | unload => cases h

/-! ## Opening a device, and closing -/

/-- An adapter that is there is looked up and asked for its device. What lasts is changed by
nothing but the new device, if it is handed out. -/
theorem calls_openDevice_of_present {lib : Library} {i : Nat} {ad : Adapter}
    (hg : lib.groupOpen = true) (had : lib.vendor.latest.adapters[i]?.join = some ad) :
    ∃ code given, (openDevice i lib).value.1 = handedOut (code, given) ∧
      (openDevice i lib).trace.calls = [.find (.adapter i) true, .openDevice i code given] ∧
      (openDevice i lib).value.2.lasting =
        if (handedOut (code, given)).isOk then
          lasting { lib with device := some ⟨lib.vendor.newest, i⟩ }
        else lib.lasting := by
  have hk : Keeps AdapterGroup.lasting (AdapterGroup.seekAdapter i (Adapter.openDevice i)) :=
    AdapterGroup.keeps_seekAdapter (Adapter.keeps_openDevice i)
  obtain ⟨hl, -⟩ := using_onGroup (p := fun _ => True) hk (fun _ _ _ => trivial) lib
  obtain ⟨code, given, hvalue, htrace⟩ : ∃ code given,
      (onGroup (AdapterGroup.seekAdapter i (Adapter.openDevice i)) lib).value.1 =
        some (code, given) ∧
      (onGroup (AdapterGroup.seekAdapter i (Adapter.openDevice i)) lib).trace =
        [.vendor (.find (.adapter i) true), .vendor (.openDevice i code given)] := by
    refine ⟨.ofRaw (Codes.take ad.opening).1, ad.givesDevice, ?_, ?_⟩
    · simp [onGroup, onVendor, State.onLatest, AdapterGroup.seekAdapter, value_hold, hg, had,
        Adapter.openDevice, respond]
    · simp [onGroup, onVendor, State.onLatest, AdapterGroup.seekAdapter, trace_hold, hg, had,
        Adapter.openDevice, respond]
  refine ⟨code, given, ?_⟩
  cases h : handedOut (code, given) with
  | error e => simp [openDevice, hvalue, htrace, h, Trace.calls, Event.call?, hl, Except.isOk,
      Except.toBool]
  | ok _ =>
    -- the device is put into the library as the call has left it
    have hput := congrArg
      (fun used : Library => { used with device := some ⟨lib.vendor.newest, i⟩ }) hl
    simp only [openDevice, Action.value_bind, Action.trace_bind, hvalue, htrace, h]
    simp [Trace.calls, Event.call?, newest_of_lasting hl, Except.isOk, Except.toBool]
    exact hput

/-- Opening a device either fails, and then changes nothing that is held, or hands out the
device, which is held from then on. -/
theorem openDevice_cases (i : Nat) (lib : Library) :
    ((openDevice i lib).value.1 ≠ .ok () ∧
      Keeping lib (openDevice i lib).trace (openDevice i lib).value.2) ∨
    ((openDevice i lib).value.1 = .ok () ∧
      (openDevice i lib).trace.calls = [.find (.adapter i) true, .openDevice i .ok true] ∧
      (openDevice i lib).value.2.Rooted ∧ (openDevice i lib).value.2.holding = some i) := by
  -- without a group, or without the adapter, there is nothing to open a device on
  cases hg : lib.groupOpen with
  | false =>
    have hopen : openDevice i lib = { value := (.error .errorInvalidParameter, lib) } := by
      apply Traced.ext' <;> simp [openDevice, onGroup, hg]
    rw [hopen]
    exact .inl ⟨by simp, composes_keeping.nil lib⟩
  | true =>
    cases had : lib.vendor.latest.adapters[i]?.join with
    | none =>
      have hopen : openDevice i lib =
          { value := (.error .errorInvalidParameter, lib)
            trace := [.vendor (.find (.adapter i) false)] } := by
        apply Traced.ext'
        · simp only [openDevice, onGroup, onVendor, State.onLatest, AdapterGroup.seekAdapter, hold,
            hg, had, Action.value_bind, Action.value_get, Action.value_within, value_seek,
            Action.value_pure, if_true]
          rw [← hg]
        · simp [openDevice, onGroup, onVendor, State.onLatest, AdapterGroup.seekAdapter, hold, hg,
            had]
      rw [hopen]
      refine .inl ⟨by simp, keeping_of_using rfl fun e he => ?_⟩
      obtain rfl := List.mem_singleton.1 he
      exact inside_find (by simp [Object.device?]) _
    | some ad =>
      obtain ⟨code, given, hvalue, hcalls, hlast⟩ := calls_openDevice_of_present hg had
      by_cases hok : handedOut (code, given) = .ok ()
      · obtain ⟨rfl, rfl⟩ := handedOut_eq_ok_iff.1 hok
        rw [hok] at hvalue hlast
        -- the adapter is the one that the device was asked of, so it is found again
        have hopened : Rooted { lib with device := some ⟨lib.vendor.newest, i⟩ } := by
          intro d hd
          obtain rfl := Option.some.inj hd
          refine ⟨Nat.le_refl _, ad.device, lib.vendor.newest, ad, rfl, ?_, rfl⟩
          rw [State.tree_newest]
          exact had
        exact .inr ⟨hvalue, hcalls, hopened.of_lasting hlast, holding_of_lasting hlast⟩
      · -- a call that hands out no device leaves the place as it is, and does not turn anything
        refine .inl ⟨hvalue ▸ hok, fun hr => ?_⟩
        have hsame : (openDevice i lib).value.2.lasting = lib.lasting := by
          cases h : handedOut (code, given) with
          | error e => simpa [h, Except.isOk, Except.toBool] using hlast
          | ok u => exact absurd h hok
        refine ⟨hr.of_lasting hsame, holding_of_lasting hsame, ?_⟩
        rw [hcalls]
        intro c hc
        simp only [List.mem_cons, List.not_mem_nil, or_false] at hc
        rcases hc with rfl | rfl
        · exact ⟨rfl, by simp [Call.device?, Object.device?]⟩
        · refine ⟨?_, by simp [Call.device?]⟩
          cases code <;> cases given <;> simp [handedOut, Call.turns] at hok ⊢

/-- Closing the device is one call on the adapter of the held device, after which none is held;
with none held nothing is done. -/
theorem closeDevice_cases {lib : Library} (hr : lib.Rooted) :
    (lib.holding = none ∧ closeDevice lib = { value := (.ok, lib) }) ∨
    ∃ a code, lib.holding = some a ∧
      (closeDevice lib).trace.calls = [.closeDevice a code] ∧
      (closeDevice lib).value.2.holding = none := by
  cases hd : lib.device with
  | none =>
    refine .inl ⟨by simp [holding, hd], ?_⟩
    apply Traced.ext' <;> simp [closeDevice, hd]
  | some d =>
    -- the adapter is still there, so the call reaches the metrics library
    obtain ⟨-, dev, n, ad, hdev, had, -⟩ := hr d hd
    obtain rfl : n = d.tree := congrArg OpenDevice.tree (Option.some.inj (hdev.symm.trans hd))
    refine .inr ⟨d.adapter, (closeDevice lib).value.1, by simp [holding, hd], ?_, ?_⟩
    · simp [closeDevice, onAdapter, onVendor, State.onTree, AdapterGroup.holdAdapter,
        Adapter.closeDevice, value_hold, trace_hold, hd, had, trace_respond, Trace.calls,
        Event.call?]
    · rw [holding, (closeDevice_closes lib).1]
      rfl

/-- Closing the adapter group is one call, under which a held device stays held; with no group
open nothing is done. -/
theorem closeAdapters_cases (lib : Library) :
    (lib.groupOpen = false ∧ closeAdapters lib = { value := (.ok, lib) }) ∨
    (lib.groupOpen = true ∧
      (∃ code, (closeAdapters lib).trace.calls = [.closeAdapters code]) ∧
      (closeAdapters lib).value.2.holding = lib.holding ∧
      (lib.Rooted → (closeAdapters lib).value.2.Rooted)) := by
  cases hg : lib.groupOpen with
  | false =>
    refine .inl ⟨rfl, ?_⟩
    apply Traced.ext' <;> simp [closeAdapters, hg]
  | true =>
    refine .inr ⟨rfl, ⟨(closeAdapters lib).value.1, ?_⟩, ?_, fun hr => ?_⟩
    · rw [closeAdapters_of_open hg]
      rfl
    · rw [holding, holding, (closeAdapters_closes lib).2.2]
    · -- only the closing codes of the latest group are used up
      obtain ⟨hl, -⟩ := using_onVendor (p := fun _ => True)
        (State.keeps_onLatest AdapterGroup.keeps_close) (fun _ _ _ => trivial) lib
      have hput :
          lasting (closeAdapters lib).value.2 = { lib.lasting with groupOpen := false } := by
        rw [← hl]
        simp [closeAdapters, hg, lasting]
      have hclosed : Rooted { lib with groupOpen := false } := hr
      exact hclosed.of_lasting hput

end Library
end GpuMonitor
