import GpuMonitor.Proofs.AfterRelease
import GpuMonitor.Proofs.Stability

/-!
# How a session is opened on a stable tree

On a stable tree every reading finds the same, so what comes of a start can be told from the tree
alone: the stages are the adapter group, its parameters, the first adapter of Intel and its device,
and the first stage that fails decides.

* `refusal`: why a call that hands out an object has failed.
* `AdapterGroup.IntelAt`, `AdapterGroup.FirstIntelAt`: the adapters that can be opened, and the one
  that is.
* `AdapterGroup.infos`: what is listed of a stable group (`value_listAdapters`). Its first entry of
  Intel is that of the least place (`find?_infos`).
* `Trace.openings`: the adapters whose device a trace tries to open.
* `Starts`: what comes of a start.

Main result:

* `start_of_stable`: the outcome of a start, and what is known of the adapter from then on.
-/

namespace GpuMonitor

open Vendor

variable {α σ : Type}

/-! ## The first adapter of Intel -/

namespace Vendor

theorem Availability.Stable.take_iff {a : Availability} (h : a.Stable) :
    a.take.1 = true ↔ a = .always := by
  rcases stable_iff.1 h with rfl | rfl <;> decide

/-- The record of an adapter that stands at a place. -/
def Adapter.info (a : Adapter) (i : Nat) : AdapterInfo :=
  ⟨i, a.shortName.copy, a.vendorId, a.deviceId⟩

namespace AdapterGroup

/-- An adapter of Intel stands at a place below the reported count. It is not null, and its
parameters are available. -/
structure IntelAt (g : AdapterGroup) (i : Nat) (a : Adapter) : Prop where
  reported : i < g.adapterCount
  there : g.adapters[i]?.join = some a
  available : a.availability = .always
  vendor : a.vendorId = 0x8086

/-- The adapter of Intel at the least place. -/
structure FirstIntelAt (g : AdapterGroup) (i : Nat) (a : Adapter) : Prop extends
    IntelAt g i a where
  least : ∀ j < i, ∀ b, ¬g.IntelAt j b

/-- The record of the adapter at a place, if there is one that gives its parameters. -/
def info? (g : AdapterGroup) (i : Nat) : Option AdapterInfo :=
  g.adapters[i]?.join.bind fun a => if a.availability.take.1 then some (a.info i) else none

/-- The records of the adapters below the reported count, in their order. -/
def infos (g : AdapterGroup) : List AdapterInfo := (List.range g.adapterCount).filterMap g.info?

variable {g : AdapterGroup} {i : Nat} {a : Adapter} {info : AdapterInfo}

theorem IntelAt.info?_eq (h : g.IntelAt i a) : g.info? i = some (a.info i) := by
  rw [info?, h.there, Option.bind_some, h.available]
  rfl

theorem Stable.adapter (h : g.Stable) (ha : g.adapters[i]?.join = some a) : a.Stable := by
  have hi : g.adapters[i]? = some (some a) := by simpa [Option.join_eq_some_iff] using ha
  exact h.2 (some a) (List.mem_of_getElem? hi) a rfl

/-- A record is one of Intel if it is that of such an adapter. -/
theorem any_isIntel_iff (hg : g.Stable) (hi : i < g.adapterCount) :
    (g.info? i).any AdapterInfo.isIntel = true ↔ ∃ a, g.IntelAt i a := by
  constructor
  · intro h
    cases ha : g.adapters[i]?.join with
    | none =>
      rw [info?, ha] at h
      cases h
    | some a =>
      rw [info?, ha, Option.bind_some] at h
      by_cases hread : a.availability.take.1 = true
      · rw [if_pos hread] at h
        have halways := (hg.adapter ha).1.take_iff.1 hread
        have hvendor : a.vendorId = 0x8086 := by
          simpa [AdapterInfo.isIntel, Adapter.info, intelVendorId] using h
        exact ⟨a, hi, ha, halways, hvendor⟩
      · rw [if_neg hread] at h
        cases h
  · rintro ⟨a, h⟩
    rw [h.info?_eq]
    show decide (a.vendorId = 0x8086) = true
    exact decide_eq_true h.vendor

/-- The first record of Intel is that of the least place, if there is any such adapter. -/
theorem find?_infos (hg : g.Stable) :
    (g.infos.find? AdapterInfo.isIntel = none ∧ ∀ i a, ¬g.IntelAt i a) ∨
      ∃ i a, g.FirstIntelAt i a ∧ g.infos.find? AdapterInfo.isIntel = some (a.info i) := by
  rw [infos, List.find?_filterMap]
  cases hfind : (List.range g.adapterCount).find? fun i => (g.info? i).any AdapterInfo.isIntel with
  | none =>
    have hno := List.find?_range_eq_none.1 hfind
    refine .inl ⟨rfl, fun i a h => ?_⟩
    have hnot := hno i h.reported
    rw [(any_isIntel_iff hg h.reported).2 ⟨a, h⟩] at hnot
    cases hnot
  | some i =>
    obtain ⟨hany, hmem, hbefore⟩ := List.find?_range_eq_some.1 hfind
    have hi : i < g.adapterCount := List.mem_range.1 hmem
    obtain ⟨a, ha⟩ := (any_isIntel_iff hg hi).1 hany
    -- a place before it has no adapter of Intel, or the search had ended there
    have hleast : ∀ j < i, ∀ b, ¬g.IntelAt j b := by
      intro j hj b hb
      have hnot := hbefore j hj
      rw [(any_isIntel_iff hg hb.reported).2 ⟨b, hb⟩] at hnot
      cases hnot
    exact .inr ⟨i, a, ⟨ha, hleast⟩, ha.info?_eq⟩

end AdapterGroup

/-! ## Calls that hand out an object -/

/-- Why a call that hands out an object has failed, if it has: with its code, or with one of its
own if there is no object in spite of the code. -/
def refusal (code : CompletionCode) (given : Bool) : Option CompletionCode :=
  if code ≠ .ok then some code else if given then none else some .errorGeneral

/-- Why the adapter group is not handed out, if it is not. -/
def Script.refusal? (script : Script) : Option CompletionCode :=
  refusal (.ofRaw script.code) script.givesGroup

/-- Why the adapter does not hand out its device at the next call, if it does not. -/
def Adapter.refusal? (a : Adapter) : Option CompletionCode :=
  refusal (.ofRaw (Codes.take a.opening).1) a.givesDevice

end Vendor

theorem Library.handedOut_eq (code : CompletionCode) (given : Bool) :
    handedOut (code, given) = match refusal code given with
      | none => .ok ()
      | some code => .error code := by
  cases code <;> cases given <;> rfl

/-! ## Openings in a trace -/

/-- The adapter whose device a call tries to open. -/
def Vendor.Call.opening? : Call → Option Nat
  | .openDevice i _ _ => some i
  | _ => none

namespace Trace

/-- The adapters whose device a trace tries to open, in order. -/
def openings (t : Trace) : List Nat := t.calls.filterMap Call.opening?

@[simp] theorem openings_append (t u : Trace) :
    openings (t ++ u) = t.openings ++ u.openings := by
  rw [openings, calls_append, List.filterMap_append]
  rfl

/-- Openings are part of the lifecycle. -/
theorem openings_of_lifecycle {t u : Trace} (h : t.lifecycle = u) : t.openings = u.openings := by
  -- what is left out of the lifecycle has no text, and an opening has one
  have hask : ∀ call : Call, call.text? = none → call.opening? = none := by
    intro call hcall
    cases call <;> first | rfl | cases hcall
  rw [← h]
  exact (filterMap_calls_lifecycle hask t).symm

end Trace

/-! ## Reading a stable library -/

/-- A walk over places whose visits change nothing keeps every answer that there is. -/
theorem value_collect_of_rests {visit : Nat → Action σ (Option α)} {s : σ}
    (h : ∀ i, (visit i s).value.2 = s) (start count : Nat) :
    (collect visit start count s).value =
      ((List.range' start count).filterMap fun i => (visit i s).value.1, s) := by
  -- on the count; every place is visited in the same state
  induction count generalizing start with
  | zero =>
    rw [collect_zero]
    rfl
  | succ n ih =>
    rw [collect_succ, Action.value_bind, h, Action.value_bind, ih, List.range'_succ]
    cases hvisit : (visit start s).value.1 <;> simp [hvisit]

namespace Library

variable {lib : Library} {g : AdapterGroup} {i : Nat} {a : Adapter}

/-- The adapter group of the library is open, and this is what it serves of it. -/
structure GroupOpened (lib : Library) (g : AdapterGroup) : Prop where
  groupOpen : lib.groupOpen = true
  latest : lib.vendor.latest = g

section
variable (h : lib.GroupOpened g)
include h

theorem value_readAdapterGroup :
    (Gateway.readAdapterGroup lib).value.1 =
      if g.availability.take.1 then some ⟨g.version, g.adapterCount⟩ else none := by
  show (readAdapterGroup lib).value.1 = _
  simp [readAdapterGroup, onGroup, onVendor, State.onLatest, AdapterGroup.read, ask, h.groupOpen,
    h.latest]

theorem value_readAdapter (i : Nat) :
    (Gateway.readAdapter i lib).value.1.map (AdapterInfo.ofParams i) = g.info? i := by
  have hvalue : (readAdapter i lib).value.1 =
      g.adapters[i]?.join.bind fun a => (Adapter.read (.adapter i) a).value.1 := by
    simp only [readAdapter, onGroup, onVendor, State.onLatest, AdapterGroup.seekAdapter,
      Action.value_bind, Action.value_get, Action.value_within, Action.value_map, value_seek,
      value_hold, h.groupOpen, h.latest, if_true]
    cases g.adapters[i]?.join <;> rfl
  show (readAdapter i lib).value.1.map (AdapterInfo.ofParams i) = g.info? i
  rw [hvalue, AdapterGroup.info?]
  cases g.adapters[i]?.join with
  | none => rfl
  | some a =>
    cases hread : a.availability.take.1 <;>
      simp [Adapter.read, ask, AdapterInfo.ofParams, Adapter.info, hread]

/-- The listing of a stable group that gives its parameters; it uses nothing up. -/
theorem value_listAdapters (hs : lib.Stable) (hread : g.availability.take.1 = true) :
    (listAdapters lib).value = (g.infos, lib) := by
  have hgroup := value_readAdapterGroup h
  rw [if_pos hread] at hgroup
  have hrest : (Gateway.readAdapterGroup lib).value.2 = lib :=
    (reading_rests.adapterGroup lib hs).2 trivial
  have hvisit (i : Nat) :
      ((Option.map (AdapterInfo.ofParams i) <$> Gateway.readAdapter i) lib).value.2 = lib :=
    (reading_rests.adapter i lib hs).2 trivial
  rw [listAdapters, Action.value_bind, hgroup, hrest]
  show (collect _ 0 g.adapterCount lib).value = _
  rw [value_collect_of_rests hvisit, AdapterGroup.infos, List.range_eq_range']
  -- each visit answers with the record of its place
  congr 2
  funext i
  exact value_readAdapter h i

/-- The device of an adapter is opened unless the call is refused. -/
theorem value_openDevice (ha : g.adapters[i]?.join = some a) :
    (openDevice i lib).value.1 =
      match a.refusal? with
      | none => .ok ()
      | some code => .error code := by
  have hseek : (onGroup (AdapterGroup.seekAdapter i (Adapter.openDevice i)) lib).value.1 =
      some (.ofRaw (Codes.take a.opening).1, a.givesDevice) := by
    simp only [onGroup, onVendor, State.onLatest, AdapterGroup.seekAdapter, Action.value_bind,
      Action.value_get, Action.value_within, value_seek, value_hold, h.groupOpen, h.latest, ha,
      if_true]
    rfl
  rw [Adapter.refusal?, ← handedOut_eq, openDevice, Action.value_bind, hseek]
  cases hgiven : handedOut (.ofRaw (Codes.take a.opening).1, a.givesDevice) <;> simp [hgiven]

end

section
variable (hl : lib.loaded = true) (hg : lib.groupOpen = false)
include hl hg

theorem openAdapters_of_refusal {code : CompletionCode}
    (h : lib.vendor.script.refusal? = some code) :
    (openAdapters lib).value.1 = .error code := by
  have hgiven := handedOut_eq (.ofRaw lib.vendor.script.code) lib.vendor.script.givesGroup
  rw [← Script.refusal?, h] at hgiven
  simp [openAdapters, onVendor, State.openAdapters, hl, hg, hgiven]

/-- A group that is handed out is the one of the script. -/
theorem openAdapters_of_given (h : lib.vendor.script.refusal? = none) :
    (openAdapters lib).value.1 = .ok () ∧
      (openAdapters lib).value.2.GroupOpened lib.vendor.script.group := by
  have hgiven := handedOut_eq (.ofRaw lib.vendor.script.code) lib.vendor.script.givesGroup
  rw [← Script.refusal?, h] at hgiven
  constructor
  · simp [openAdapters, onVendor, State.openAdapters, hl, hg, hgiven]
  · constructor <;> simp [openAdapters, onVendor, State.openAdapters, hl, hg, hgiven]

end

end Library

/-! ## Starting -/

namespace Session

variable {lib : Library} {g : AdapterGroup} {i : Nat} {a : Adapter} {s : Session Library}

theorem openings_listAdapters (lib : Library) : (listAdapters lib).trace.openings = [] :=
  Trace.openings_of_lifecycle
    (Library.lifecycle_of_quiet (obeys_listAdapters Library.reading_using lib).2)

section
variable (h : s.gateway.GroupOpened g) (hs : s.gateway.Stable)
  (hread : g.availability.take.1 = true) (group : AdapterGroupParams)
include h hs hread

/-- Without an adapter of Intel no device is opened. -/
theorem openIntel_of_no_intel (hfind : g.infos.find? AdapterInfo.isIntel = none) :
    (openIntel group s).value.1 = .error .noIntelAdapter ∧
      (openIntel group s).trace.openings = [] := by
  have hlist := Library.value_listAdapters h hs hread
  have hnone : (listAdapters s.gateway).value.1.find? AdapterInfo.isIntel = none := by
    rw [hlist]
    exact hfind
  obtain ⟨hvalue, text, htrace⟩ := openIntel_of_none group hnone
  rw [hvalue, htrace, Trace.openings_append, openings_listAdapters]
  exact ⟨rfl, rfl⟩

/-- The device of the chosen adapter is opened, at the place of its record. -/
theorem openIntel_of_intel (hfind : g.infos.find? AdapterInfo.isIntel = some (a.info i))
    (ha : g.adapters[i]?.join = some a) :
    (openIntel group s).trace.openings = [i] ∧
      match a.refusal? with
      | none => (openIntel group s).value.1 = .ok () ∧
          (openIntel group s).value.2.adapter = some (a.info i)
      | some code =>
        (openIntel group s).value.1 = .error (.vendorCall "open metrics device" code) := by
  have hlist := Library.value_listAdapters h hs hread
  have hsome : (listAdapters s.gateway).value.1.find? AdapterInfo.isIntel = some (a.info i) := by
    rw [hlist]
    exact hfind
  obtain ⟨listed, hlisted, hvalue, text, htrace⟩ := openIntel_of_some group hsome
  have hsame : listed = s := by rw [hlisted, hlist]
  rw [hsame] at hvalue htrace
  -- the record names the place, so the call reaches the adapter that the record is of
  obtain ⟨code, given, hlifecycle, -⟩ := Library.openDevice_of_present h.groupOpen (h.latest ▸ ha)
  have hcall : (Library.openDevice (a.info i).index s.gateway).trace.openings = [i] :=
    Trace.openings_of_lifecycle hlifecycle
  have hresult : (Library.openDevice (a.info i).index s.gateway).value.1 = _ :=
    Library.value_openDevice h ha
  rw [hvalue, htrace]
  cases hrefusal : a.refusal? with
  | none =>
    rw [hrefusal] at hresult
    obtain ⟨hopened, hopening⟩ := openDevice_ok hresult
    rw [hopened, hopening, Trace.openings_append, Trace.openings_append, Trace.openings_append,
      Trace.openings_append, openings_listAdapters, hcall]
    exact ⟨rfl, rfl, rfl⟩
  | some code =>
    rw [hrefusal] at hresult
    obtain ⟨hopened, hopening⟩ := openDevice_error hresult
    rw [hopened, hopening, Trace.openings_append, Trace.openings_append, Trace.openings_append,
      openings_listAdapters, hcall]
    exact ⟨rfl, rfl⟩

end

/-- A session without a device opens none at its end. -/
theorem openings_finish_idle {group : Bool} (h : Idle group s) :
    (finish s).trace.openings = [] := by
  obtain ⟨⟨code, htrace⟩, hover⟩ := release_idle h
  obtain ⟨-, hfinish⟩ := finish_of_gone hover.gone
  rw [hfinish, Trace.openings_of_lifecycle htrace]
  cases group <;> rfl

section
variable (hl : lib.loaded = true) (hg : lib.groupOpen = false) (hd : lib.device = none)
include hl hg hd

/-- A start that fails opens no device after its failure. -/
theorem start_of_failure {f : Failure} (h : (openAll { gateway := lib }).value.1 = .error f) :
    (start lib).value = .error f ∧
      (start lib).trace.openings = (openAll { gateway := lib }).trace.openings := by
  obtain ⟨hvalue, htrace⟩ := start_error h
  refine ⟨hvalue, ?_⟩
  rw [htrace, Trace.openings_append]
  -- what a failing start has opened is at most the adapter group
  have hnone : (finish (openAll { gateway := lib }).value.2).trace.openings = [] := by
    cases opensAll_openAll lib hl hg hd with
    | refused _ _ _ _ hs _ _ => exact openings_finish_idle hs
    | failed _ _ _ hs _ _ => exact openings_finish_idle hs
    | opened _ hok _ _ _ =>
      rw [h] at hok
      cases hok
  rw [hnone, List.append_nil]

omit hd in
theorem openings_openAdapters : (Library.openAdapters lib).trace.openings = [] := by
  obtain ⟨code, given, htrace, -⟩ := Library.openAdapters_of_closed hl hg
  rw [htrace]
  rfl

end

theorem openings_readAdapterGroup (lib : Library) :
    (Gateway.readAdapterGroup lib).trace.openings = [] :=
  Trace.openings_of_lifecycle
    (Library.lifecycle_of_quiet (Library.reading_using.adapterGroup lib).2)

/-! ## What comes of a start -/

/-- What comes of a start, told from the script of the library: the stages in order, and the
adapters whose device is tried. -/
inductive Starts (script : Script) (r : Traced (Except Failure (Session Library))) : Prop where
  /-- The adapter group is not handed out. -/
  | groupRefused (code : CompletionCode) (hgroup : script.refusal? = some code)
    (hresult : r.value = .error (.vendorCall "open adapter group" code))
    (hopenings : r.trace.openings = [])
  /-- The adapter group does not give its parameters. -/
  | groupUnread (hgroup : script.refusal? = none) (hread : script.group.availability ≠ .always)
    (hresult : r.value = .error (.missingParams "adapter group"))
    (hopenings : r.trace.openings = [])
  /-- The group has no adapter of Intel. -/
  | noIntel (hgroup : script.refusal? = none) (hread : script.group.availability = .always)
    (hno : ∀ i a, ¬script.group.IntelAt i a)
    (hresult : r.value = .error .noIntelAdapter)
    (hopenings : r.trace.openings = [])
  /-- The first adapter of Intel does not hand out its device. -/
  | deviceRefused (i : Nat) (a : Adapter) (code : CompletionCode)
    (hgroup : script.refusal? = none) (hread : script.group.availability = .always)
    (hfirst : script.group.FirstIntelAt i a) (hdevice : a.refusal? = some code)
    (hresult : r.value = .error (.vendorCall "open metrics device" code))
    (hopenings : r.trace.openings = [i])
  /-- The device of the first adapter of Intel is open. The session knows that adapter by its record
  and its place, and nothing is selected. -/
  | opened (i : Nat) (a : Adapter) (s : Session Library)
    (hgroup : script.refusal? = none) (hread : script.group.availability = .always)
    (hfirst : script.group.FirstIntelAt i a) (hdevice : a.refusal? = none)
    (hresult : r.value = .ok s) (hadapter : s.adapter = some (a.info i))
    (hselection : s.selection = none)
    (hopenings : r.trace.openings = [i])

/-- Once the adapter group is open and read, the rest of a start is that of its adapters. -/
theorem openAll_of_given (hl : lib.loaded = true) (hg : lib.groupOpen = false) (hs : lib.Stable)
    (hgroup : lib.vendor.script.refusal? = none)
    (hread : lib.vendor.script.group.availability = .always) :
    ∃ (opened : Session Library) (group : AdapterGroupParams),
      opened.gateway.GroupOpened lib.vendor.script.group ∧ opened.gateway.Stable ∧
      (openAll { gateway := lib }).value = (openIntel group opened).value ∧
      (openAll { gateway := lib }).trace.openings = (openIntel group opened).trace.openings := by
  obtain ⟨hcall, hopened⟩ := Library.openAdapters_of_given hl hg hgroup
  have hstill : (Library.openAdapters lib).value.2.Stable :=
    (Library.obeys_openAdapters Library.handling_stable lib hs).1
  have hparams := Library.value_readAdapterGroup hopened
  rw [hread, if_pos (by rfl)] at hparams
  have hrest : (Gateway.readAdapterGroup (Library.openAdapters lib).value.2).value.2 =
      (Library.openAdapters lib).value.2 := (Library.reading_rests.adapterGroup _ hstill).2 trivial
  obtain ⟨opened, hsession, hvalue, htrace⟩ := openAll_of_read hcall hparams
  rw [hrest] at hsession
  refine ⟨opened, _, by rw [hsession]; exact hopened, by rw [hsession]; exact hstill, hvalue, ?_⟩
  rw [htrace, Trace.openings_append, Trace.openings_append, openings_openAdapters hl hg,
    openings_readAdapterGroup]
  rfl

theorem starts_start (hl : lib.loaded = true) (hg : lib.groupOpen = false) (hd : lib.device = none)
    (hs : lib.Stable) : Starts lib.vendor.script (start lib) := by
  have hstable : lib.vendor.script.group.Stable := hs.script
  -- the stages one after the other: a start comes to the first one that fails
  cases hgroup : lib.vendor.script.refusal? with
  | some code =>
    have hcall := Library.openAdapters_of_refusal hl hg hgroup
    obtain ⟨hvalue, htrace⟩ := openAll_error hcall
    obtain ⟨hresult, hopenings⟩ := start_of_failure hl hg hd (by rw [hvalue])
    rw [htrace, openings_openAdapters hl hg] at hopenings
    exact .groupRefused code hgroup hresult hopenings
  | none =>
    by_cases hread : lib.vendor.script.group.availability = .always
    · obtain ⟨opened, group, hopened, hstill, hvalue, htrace⟩ :=
        openAll_of_given hl hg hs hgroup hread
      have htake := hstable.1.take_iff.2 hread
      rcases AdapterGroup.find?_infos hstable with ⟨hfind, hno⟩ | ⟨i, a, hfirst, hfind⟩
      · obtain ⟨hfailed, hnone⟩ := openIntel_of_no_intel hopened hstill htake group hfind
        obtain ⟨hresult, hopenings⟩ := start_of_failure hl hg hd (by rw [hvalue, hfailed])
        rw [htrace, hnone] at hopenings
        exact .noIntel hgroup hread hno hresult hopenings
      · obtain ⟨hone, houtcome⟩ :=
          openIntel_of_intel hopened hstill htake group hfind hfirst.there
        cases hdevice : a.refusal? with
        | some code =>
          rw [hdevice] at houtcome
          obtain ⟨hresult, hopenings⟩ := start_of_failure hl hg hd (by rw [hvalue, houtcome])
          rw [htrace, hone] at hopenings
          exact .deviceRefused i a code hgroup hread hfirst hdevice hresult hopenings
        | none =>
          rw [hdevice] at houtcome
          obtain ⟨hok, hadapter⟩ := houtcome
          obtain ⟨hresult, hsame⟩ := start_ok (by rw [hvalue, hok])
          have hselection : (openAll { gateway := lib }).value.2.selection = none :=
            keeps_openAll { gateway := lib }
          exact .opened i a _ hgroup hread hfirst hdevice hresult (by rw [hvalue]; exact hadapter)
            hselection (by rw [hsame, htrace, hone])
    · -- a stable group that does not always give its parameters never does
      obtain ⟨hcall, hopened⟩ := Library.openAdapters_of_given hl hg hgroup
      have hparams := Library.value_readAdapterGroup hopened
      rw [if_neg (mt hstable.1.take_iff.1 hread)] at hparams
      obtain ⟨hvalue, htrace⟩ := openAll_of_unread hcall hparams
      obtain ⟨hresult, hopenings⟩ := start_of_failure hl hg hd (by rw [hvalue])
      rw [htrace, Trace.openings_append, openings_openAdapters hl hg, openings_readAdapterGroup]
        at hopenings
      exact .groupUnread hgroup hread hresult hopenings

/-! ## The adapter from then on -/

/-- No operation changes the adapter of a session. -/
theorem adapter_perform {γ : Type} [Gateway γ] (op : Operation) (s : Session γ) :
    (op.perform s).value.2.adapter = s.adapter := by
  have hadapter {t u : Session γ} (h : known t = known u) : t.adapter = u.adapter :=
    congrArg Prod.fst h
  cases op with
  | select =>
    obtain ⟨-, hstate, -⟩ := select_spec s
    show (select s).value.2.adapter = s.adapter
    rw [hstate]
  | sample => exact hadapter (keeps_sample s)
  | release => exact hadapter (keeps_release s)
  | run mode interval bound bench => exact hadapter (keeps_run mode interval bound bench s)
  | _ => rfl

theorem adapter_performAll {γ : Type} [Gateway γ] (ops : List Operation) (s : Session γ) :
    (performAll ops s).value.2.adapter = s.adapter :=
  obeys_history (composes_keeps (adapter (γ := γ))) adapter_perform ops s

/--
**The outcome of a start on a stable tree.** Let a library be loaded whose objects each always give
their parameters, or never. A start on it comes to what `Starts` says: it fails with the first stage
that fails, which are the adapter group, its parameters, the search for an adapter of Intel and the
device of that adapter; else it succeeds.

* At most one device is tried to open: that of the least place below the reported count whose
  adapter is not null, is available and has the vendor number of Intel.
* The search fails if and only if the group is open and read, and there is no such place.
* A session that was started knows that adapter by its record and its place, and no set is selected.
  Whatever operations follow, it goes on knowing it so.
-/
theorem start_of_stable {loader : Loader} {candidates : List Path} {lib : Library}
    (hload : (Library.load loader candidates).value = .ok lib)
    (hstable : lib.vendor.script.group.Stable) :
    Starts lib.vendor.script (start lib) ∧
    ((start lib).value = .error .noIntelAdapter ↔
      lib.vendor.script.refusal? = none ∧ lib.vendor.script.group.availability = .always ∧
        ∀ i a, ¬lib.vendor.script.group.IntelAt i a) ∧
    ∀ s ops, (start lib).value = .ok s →
      (performAll ops s).value.2.adapter = s.adapter ∧
      (Operation.adapter.perform (performAll ops s).value.2).value.1 = .adapter s.adapter := by
  obtain ⟨path, script, rfl⟩ := Library.loaded_of_load hload
  have hlib : Library.Stable { path, vendor := .fresh script } := State.stable_fresh hstable
  have hstarts : Starts script (start { path, vendor := .fresh script }) :=
    starts_start rfl rfl rfl hlib
  refine ⟨hstarts, ⟨fun hnone => ?_, fun ⟨hgiven, hread, hno⟩ => ?_⟩, fun s ops _ => ?_⟩
  · -- every other stage has another failure, or none
    cases hstarts with
    | noIntel hgroup hread hno => exact ⟨hgroup, hread, hno⟩
    | groupRefused _ _ hresult => exact absurd (hresult.symm.trans hnone) nofun
    | groupUnread _ _ hresult => exact absurd (hresult.symm.trans hnone) nofun
    | deviceRefused _ _ _ _ _ _ _ hresult => exact absurd (hresult.symm.trans hnone) nofun
    | opened _ _ _ _ _ _ _ hresult => exact absurd (hresult.symm.trans hnone) nofun
  · -- no other stage can have decided
    cases hstarts with
    | noIntel _ _ _ hresult => exact hresult
    | groupRefused _ hrefused => exact absurd (hrefused.symm.trans hgiven) nofun
    | groupUnread _ hunread => exact absurd hread hunread
    | deviceRefused i a _ _ _ hfirst => exact absurd hfirst.toIntelAt (hno i a)
    | opened i a _ _ _ hfirst => exact absurd hfirst.toIntelAt (hno i a)
  · have hadapter := adapter_performAll ops s
    exact ⟨hadapter, congrArg Reply.adapter hadapter⟩

/-- The adapter of Intel is the fourth one, after one that is null, one of another vendor and one
without parameters. -/
theorem start_of_stable_patchy :
    let lib : Library := { path := ⟨[]⟩, vendor := .fresh .patchy }
    (Library.load (fun _ => .opens .patchy) [⟨[]⟩]).value = .ok lib ∧
    Script.patchy.group.Stable ∧ Starts .patchy (start lib) ∧
    (start lib).value.map Session.adapter = .ok (some ⟨3, none, 0x8086, 0x5917⟩) ∧
    (start lib).trace.openings = [3] := by
  intro lib
  have hload : (Library.load (fun _ => .opens .patchy) [⟨[]⟩]).value = .ok lib := rfl
  obtain ⟨hstarts, -⟩ := start_of_stable hload Script.stable_patchy
  exact ⟨hload, Script.stable_patchy, hstarts, by decide +kernel, by decide +kernel⟩

end Session
end GpuMonitor
