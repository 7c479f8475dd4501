import GpuMonitor.Proofs.Outcome
import GpuMonitor.Proofs.ReadingBack
import GpuMonitor.Proofs.Searching
import GpuMonitor.Proofs.Stock

/-!
# The startup report and the log

Before the loop begins a run prints what it has found, and the log has told the same while it was
being found. Both name one library and one adapter. The number of adapters is printed from a later
listing, though, and the log calls a set without a name unknown where the report leaves it out. So
the two agree only as long as the adapter group and its adapters go on giving their parameters, no
adapter is missing, and the selected set has a name.

* `Trace.debugLines`: the debug records of a trace.
* `Tells F P m`: what the action tells in debug records meets `P` together with its answer, and `F`
  stays as it is. It passes through sequences (`tells_bind`) and searches (`tells_firstOf`).
* `Finding`: what the report and the log tell, with the line and the record for it.
* `Started`: what a start has found, told and left.

Main result:

* `stories_agree_iff`: what is logged, what is printed, and when it is the same.
-/

namespace GpuMonitor

open Vendor

variable {α β σ ω : Type}

/-! ## Debug records -/

namespace Trace

/-- The texts of the debug records of a trace. -/
def debugLines (t : Trace) : List String :=
  t.logs.filterMap fun
    | (.debug, text) => some text
    | _ => none

theorem debugLines_append (t u : Trace) :
    debugLines (t ++ u) = t.debugLines ++ u.debugLines := by
  rw [debugLines, logs_append, List.filterMap_append]
  rfl

theorem debugLines_of_service {t : Trace} (h : ∀ e ∈ t, e.isService = true) :
    t.debugLines = [] := by
  rw [debugLines, logs_of_service h]
  rfl

theorem debugLines_of_looks {t : Trace} (h : ∀ e ∈ t, e.isLook = true) : t.debugLines = [] :=
  debugLines_of_service fun e he => Event.isService_of_isLook (h e he)

end Trace

/-- The debug records of the action meet `P` together with its answer, and `F` is kept. -/
def Tells (F : σ → ω) (P : α → List String → Prop) (m : Action σ α) : Prop :=
  ∀ s, F (m s).value.2 = F s ∧ P (m s).value.1 (m s).trace.debugLines

section
variable {F : σ → ω}

theorem tells_pure {P : α → List String → Prop} {a : α} (h : P a []) :
    Tells F P (pure a : Action σ α) := fun _ => ⟨rfl, h⟩

theorem tells_log {P : Unit → List String → Prop} {level : Level} {text : String}
    (h : P () (Trace.debugLines [.log level text])) : Tells F P (log level text) :=
  fun _ => ⟨rfl, h⟩

theorem tells_emitAll {P : Unit → List String → Prop} {events : Trace}
    (h : P () events.debugLines) : Tells F P (emitAll events) := fun _ => ⟨rfl, h⟩

theorem tells_bind {P : α → List String → Prop} {Q : β → List String → Prop} {m : Action σ α}
    {f : α → Action σ β} (hm : Tells F P m)
    (hf : ∀ a x, P a x → Tells F (fun b y => Q b (x ++ y)) (f a)) : Tells F Q (m >>= f) := by
  intro s
  obtain ⟨hkept, htold⟩ := hm s
  obtain ⟨hkept', htold'⟩ := hf _ _ htold (m s).value.2
  rw [Action.value_bind, Action.trace_bind, Trace.debugLines_append]
  exact ⟨hkept'.trans hkept, htold'⟩

/-- A step that tells nothing goes before one that does. -/
theorem tells_bind_silent {Q : β → List String → Prop} {m : Action σ α} {f : α → Action σ β}
    (hm : Tells F (fun _ x => x = []) m) (hf : ∀ a, Tells F Q (f a)) : Tells F Q (m >>= f) := by
  refine tells_bind hm fun a x hx => ?_
  subst hx
  exact hf a

/-- A search tells what the visit tells that ends it, if the others tell nothing. -/
theorem tells_firstOf {told : α → List String} {visit : Nat → Action σ (Option α)}
    (hv : ∀ i, Tells F (fun o x => x = o.elim [] told) (visit i)) (start count : Nat) :
    Tells F (fun o x => x = o.elim [] told) (firstOf visit start count) := by
  -- a visit without an answer has told nothing, so the rest of the search tells it all
  induction count generalizing start with
  | zero =>
    rw [firstOf_zero]
    exact tells_pure rfl
  | succ n ih =>
    rw [firstOf_succ]
    refine tells_bind (hv start) fun answer x hx => ?_
    subst hx
    cases answer with
    | none => exact ih (start + 1)
    | some a => exact tells_pure (List.append_nil _)

/-- A walk whose visits tell nothing tells nothing. -/
theorem tells_collect_silent {visit : Nat → Action σ (Option α)}
    (hv : ∀ i, Tells F (fun _ x => x = []) (visit i)) (start count : Nat) :
    Tells F (fun _ x => x = []) (collect visit start count) := by
  have hc : Composes fun (s : σ) t s' => F s' = F s ∧ Trace.debugLines t = [] := by
    refine ⟨fun _ => ⟨rfl, rfl⟩, fun h h' => ⟨h'.1.trans h.1, ?_⟩⟩
    rw [Trace.debugLines_append, h.2, h'.2]
    rfl
  exact obeys_collect hc hv start count

end

/-! ## Findings -/

/-- What a run finds before its loop, as the report and the log tell it. -/
inductive Finding where
  /-- The library is that of a path. -/
  | library (path : Path)
  /-- There are so many adapters. -/
  | adapters (count : Nat)
  /-- This is the adapter of Intel. -/
  | intel (adapter : AdapterInfo)
  /-- The set of this name is selected. -/
  | metricSet (name : String)
  deriving DecidableEq, Repr

namespace Finding

/-- The line that the report prints. -/
def line : Finding → String
  | library path => "Loaded library from: " ++ path.text
  | adapters count => "Found " ++ Text.decimal count ++ " adapter(s)"
  | intel adapter => Session.foundText adapter
  | metricSet name => "Selected metric set: " ++ name

/-- The debug record, which tells the version of the interface besides. -/
def record (version : ApiVersion) : Finding → String
  | adapters count =>
    "Found " ++ Text.decimal count ++ " adapter(s) (API " ++ version.text ++ ")"
  | finding => finding.line

end Finding

/-! ## Selecting -/

namespace Selection

/-- What the log tells of a set that is selected. -/
def told (selection : Selection) : List String :=
  [(Finding.metricSet (nameOrUnknown selection.name)).line]

section
variable {m : Action Library α}

/-- Reading tells nothing. -/
theorem tells_reading (hk : Keeps Library.stock m) (hu : Obeys (Library.Using (·.isLook)) m) :
    Tells Library.stock (fun _ x => x = []) m := fun lib =>
  ⟨hk lib, Trace.debugLines_of_looks (hu lib).2⟩

theorem tells_readDevice :
    Tells Library.stock (fun _ x => x = []) (Gateway.readDevice (γ := Library)) :=
  tells_reading (m := Library.readDevice) (Library.keeps_stock_onDevice _) Library.using_readDevice

theorem tells_readConcurrentGroup (g : Nat) :
    Tells Library.stock (fun _ x => x = []) (Gateway.readConcurrentGroup (γ := Library) g) :=
  tells_reading (m := Library.readConcurrentGroup g) (Library.keeps_stock_onDevice _)
    (Library.using_readConcurrentGroup g)

theorem tells_readMetricSet (id : MetricSetId) :
    Tells Library.stock (fun _ x => x = []) (Gateway.readMetricSet (γ := Library) id) :=
  tells_reading (m := Library.readMetricSet id) (Library.keeps_stock_onSet id _)
    (Library.using_readMetricSet id)

theorem tells_readMetric (id : MetricSetId) (i : Nat) :
    Tells Library.stock (fun _ x => x = []) (Gateway.readMetric (γ := Library) id i) :=
  tells_reading (m := Library.readMetric id i) (Library.keeps_stock_onSet id _)
    (Library.using_readMetric id i)

end

theorem debugLines_found (metrics : List (MetricClass × String)) :
    Trace.debugLines (metrics.map foundRecord) = [] := by
  induction metrics with
  | nil => rfl
  | cons m metrics ih => exact ih

theorem tells_considerSet (id : MetricSetId) :
    Tells Library.stock (fun o x => x = o.elim [] told) (considerSet (γ := Library) id) := by
  refine tells_bind_silent (tells_readMetricSet id) fun params => ?_
  cases params with
  | none => exact tells_pure rfl
  | some params =>
    refine tells_bind_silent (tells_log rfl) fun _ => ?_
    refine tells_bind_silent (tells_collect_silent (tells_readMetric id) 0 _) fun metrics => ?_
    refine tells_bind_silent (tells_emitAll (debugLines_found _)) fun _ => ?_
    split
    · exact tells_pure rfl
    · refine tells_bind (P := fun _ x => x = told ⟨id, params.symbolName⟩) (tells_log rfl)
        fun _ x hx => ?_
      subst hx
      exact tells_pure rfl

theorem tells_considerGroup (g : Nat) :
    Tells Library.stock (fun o x => x = o.elim [] told) (considerGroup (γ := Library) g) := by
  refine tells_bind_silent (tells_readConcurrentGroup g) fun params => ?_
  cases params with
  | none => exact tells_pure rfl
  | some params =>
    refine tells_bind_silent (tells_log rfl) fun _ => ?_
    exact tells_firstOf (fun i => tells_considerSet ⟨g, i⟩) 0 _

/-- The set that is selected is told, and nothing else. -/
theorem tells_selectSet :
    Tells Library.stock (fun r x => x = r.toOption.elim [] told) (selectSet (γ := Library)) := by
  have hcount : Tells Library.stock (fun _ x => x = []) (concurrentGroupCount (γ := Library)) := by
    refine tells_bind_silent tells_readDevice fun params => ?_
    cases params <;> exact tells_pure rfl
  refine tells_bind_silent hcount fun count => ?_
  cases count with
  | error f => exact tells_pure rfl
  | ok count =>
    refine tells_bind_silent (tells_log rfl) fun _ => ?_
    refine tells_bind (tells_firstOf tells_considerGroup 0 count) fun found x hx => ?_
    subst hx
    cases found with
    | some selection => exact tells_pure (List.append_nil _)
    | none =>
      refine tells_bind_silent (tells_log rfl) fun _ => ?_
      exact tells_bind_silent (tells_log rfl) fun _ => tells_pure rfl

end Selection

/-! ## Starting -/

namespace Library

variable {lib lib' : Library}

theorem path_of_lasting (h : lib'.lasting = lib.lasting) : lib'.path = lib.path := by
  have hpath : lib'.lasting.path = lib.lasting.path := by rw [h]
  exact hpath

theorem path_openAdapters (lib : Library) : (openAdapters lib).value.2.path = lib.path := by
  have hc := composes_keeps (path : Library → Path)
  refine (?_ : Keeps path openAdapters) lib
  refine obeys_bind hc (obeys_get hc) fun lib => ?_
  split
  · exact obeys_pure hc _
  · split
    · exact obeys_pure hc _
    · refine obeys_bind hc (fun _ => rfl) fun r => ?_
      split
      · exact obeys_pure hc _
      · exact obeys_bind hc (obeys_modify fun _ => rfl) fun _ => obeys_pure hc _

theorem path_openDevice (i : Nat) (lib : Library) :
    (openDevice i lib).value.2.path = lib.path := by
  have hc := composes_keeps (path : Library → Path)
  have hseek : Keeps path (onGroup (AdapterGroup.seekAdapter i (Adapter.openDevice i))) := by
    refine obeys_bind hc (obeys_get hc) fun lib => ?_
    split
    · exact fun _ => rfl
    · exact obeys_pure hc _
  refine (?_ : Keeps path (openDevice i)) lib
  refine obeys_bind hc hseek fun r => ?_
  split
  · exact obeys_pure hc _
  · split
    · exact obeys_pure hc _
    · exact obeys_bind hc (obeys_modify fun _ => rfl) fun _ => obeys_pure hc _

/-- Listing the adapters only looks. -/
theorem looks_listAdapters : Emits (·.isLook) (listAdapters (γ := Library)) := by
  have hc := composes_emits (σ := Library) (·.isLook)
  refine obeys_bind hc (fun lib => (using_readAdapterGroup lib).2) fun _ => ?_
  exact obeys_collect hc (fun i => obeys_map _ fun lib => (using_readAdapter i lib).2) 0 _

end Library

namespace Session

/-- What a start that succeeds has found, told and left of the adapter group. -/
structure Started (lib : Library) (s : Session Library) (adapter : AdapterInfo) : Prop where
  adapter_eq : s.adapter = some adapter
  path_eq : s.gateway.path = lib.path
  count_pos : 0 < lib.vendor.script.group.adapterCount
  /-- The group has given its parameters a second time. -/
  given : lib.vendor.script.group.stock.readGroup.group.take.1 = true
  stock_eq : s.gateway.stock = some lib.vendor.script.group.stock.readGroup.afterListing
  told : (start lib).trace.debugLines =
    [.adapters lib.vendor.script.group.adapterCount, .intel adapter].map
      (Finding.record lib.vendor.script.group.version)

theorem debugLines_openDevice (adapter : AdapterInfo) (s : Session Library) :
    (openDevice adapter s).trace.debugLines = [] := by
  have hopen := Trace.debugLines_of_service (Library.service_openDevice adapter.index s.gateway)
  cases hcall : (Library.openDevice adapter.index s.gateway).value.1 with
  | error code => rw [(openDevice_error hcall).2, hopen]
  | ok u =>
    rw [(openDevice_ok hcall).2, Trace.debugLines_append, hopen]
    rfl

/-- The search for an adapter of Intel tells how many there are, and which one it is. -/
theorem debugLines_openIntel {s : Session Library} {adapter : AdapterInfo}
    (group : AdapterGroupParams)
    (hfind : (listAdapters s.gateway).value.1.find? AdapterInfo.isIntel = some adapter) :
    (openIntel group s).trace.debugLines =
      [.adapters group.adapterCount, .intel adapter].map (Finding.record group.version) := by
  have hlist := Trace.debugLines_of_looks (Library.looks_listAdapters s.gateway)
  have htrace : (openIntel group s).trace =
      [.log .debug ("Found " ++ Text.decimal group.adapterCount ++ " adapter(s) (API "
        ++ group.version.text ++ ")")] ++ ((listAdapters s.gateway).trace ++
          ([.log .debug (foundText adapter)] ++ (openDevice adapter
            { s with gateway := (listAdapters s.gateway).value.2 }).trace)) := by
    simp [openIntel, onGateway, hfind]
  rw [htrace, Trace.debugLines_append, Trace.debugLines_append, Trace.debugLines_append, hlist,
    debugLines_openDevice]
  rfl

/-- The session that the search for an adapter of Intel leaves, if it succeeds. -/
theorem openIntel_ok {s opened : Session Library} {group : AdapterGroupParams}
    (h : (openIntel group s).value = (.ok (), opened)) :
    ∃ adapter, (listAdapters s.gateway).value.1.find? AdapterInfo.isIntel = some adapter ∧
      opened.adapter = some adapter ∧
      opened.gateway =
        (Library.openDevice adapter.index (listAdapters s.gateway).value.2).value.2 := by
  cases hfind : (listAdapters s.gateway).value.1.find? AdapterInfo.isIntel with
  | none =>
    rw [(openIntel_of_none group hfind).1] at h
    cases h
  | some adapter =>
    obtain ⟨listed, hlisted, hvalue, -⟩ := openIntel_of_some group hfind
    rw [hvalue] at h
    have hgateway : listed.gateway = (listAdapters s.gateway).value.2 := by rw [hlisted]
    cases hcall : (Library.openDevice adapter.index listed.gateway).value.1 with
    | error code =>
      rw [(openDevice_error hcall).1] at h
      cases h
    | ok u =>
      rw [(openDevice_ok hcall).1] at h
      obtain rfl := (Prod.mk.inj h).2
      exact ⟨adapter, rfl, rfl, by rw [← hgateway]⟩

section
variable {lib : Library} {s : Session Library} (hl : lib.loaded = true)
  (hg : lib.groupOpen = false)
include hl hg

/-- A start that succeeds has been given the adapter group and its parameters. -/
theorem opening_of_start (h : (start lib).value = .ok s) :
    ∃ (opened : Session Library) (group : AdapterGroupParams),
      group = ⟨lib.vendor.script.group.version, lib.vendor.script.group.adapterCount⟩ ∧
      opened.gateway.path = lib.path ∧
      opened.gateway.stock = some lib.vendor.script.group.stock.readGroup ∧
      (openIntel group opened).value = (.ok (), s) ∧
      (start lib).trace.debugLines = (openIntel group opened).trace.debugLines := by
  have hopen := openAll_of_start h
  have hok : (openAll { gateway := lib }).value.1 = .ok () := by rw [hopen]
  -- had the group been refused, or not been read, the start would have failed
  cases hgiven : lib.vendor.script.refusal? with
  | some code =>
    rw [(openAll_error (Library.openAdapters_of_refusal hl hg hgiven)).1] at hopen
    cases hopen
  | none =>
    obtain ⟨hcall, hopened⟩ := Library.openAdapters_of_given hl hg hgiven
    have hparams := Library.value_readAdapterGroup hopened
    by_cases hread : lib.vendor.script.group.availability.take.1 = true
    · rw [if_pos hread] at hparams
      obtain ⟨opened, hsession, hvalue, htrace⟩ := openAll_of_read hcall hparams
      have hstock : (Library.openAdapters lib).value.2.stock =
          some lib.vendor.script.group.stock :=
        Library.stock_eq_some_iff.2 ⟨hopened.groupOpen, by rw [hopened.latest]⟩
      have hpath := Library.path_of_lasting
        (Library.reading_using.adapterGroup (Library.openAdapters lib).value.2).1
      have hlooked : (Gateway.readAdapterGroup
          (Library.openAdapters lib).value.2).trace.debugLines = [] :=
        Trace.debugLines_of_looks (Library.using_readAdapterGroup _).2
      obtain ⟨code, given, hsingle, -⟩ := Library.openAdapters_of_closed hl hg
      refine ⟨opened, _, rfl, ?_, ?_, by rw [← hvalue, hopen], ?_⟩
      · rw [hsession, hpath, Library.path_openAdapters]
      · rw [hsession]
        exact (Library.readAdapterGroup_stock hstock).2
      · rw [(start_ok hok).2, htrace, Trace.debugLines_append, Trace.debugLines_append, hlooked,
          hsingle]
        rfl
    · rw [if_neg hread] at hparams
      rw [(openAll_of_unread hcall hparams).1] at hopen
      cases hopen

theorem exists_started (h : (start lib).value = .ok s) : ∃ adapter, Started lib s adapter := by
  obtain ⟨opened, group, rfl, hpath, hstock, hopen, htold⟩ := opening_of_start hl hg h
  obtain ⟨adapter, hfind, hadapter, hgateway⟩ := openIntel_ok hopen
  obtain ⟨hlength, hlisted⟩ := Library.length_listAdapters hstock
  -- an adapter has been listed, so the group has given their number, and that is not zero
  have hsome : 0 < lib.vendor.script.group.stock.readGroup.listed := by
    rw [← hlength]
    exact List.length_pos_of_mem (List.mem_of_find?_eq_some hfind)
  have hgiven : lib.vendor.script.group.stock.readGroup.group.take.1 = true := by
    by_contra hnot
    rw [Stock.listed, if_neg hnot] at hsome
    exact absurd hsome (Nat.lt_irrefl 0)
  have hlisting := Library.path_of_lasting
    (obeys_listAdapters Library.reading_using opened.gateway).1
  refine ⟨adapter, hadapter, ?_, ?_, hgiven, ?_, ?_⟩
  · rw [hgateway, Library.path_openDevice, hlisting, hpath]
  · exact Nat.lt_of_lt_of_le hsome (Stock.listed_le _)
  · rw [hgateway, Library.keeps_stock_openDevice, hlisted]
  · rw [htold, debugLines_openIntel _ hfind]

end

/-- What a selection that succeeds leaves of a session, and tells. -/
theorem select_ok {s s' : Session Library} {id : MetricSetId}
    (h : (select s).value = (.ok id, s')) :
    ∃ selection, s'.selection = some selection ∧ s'.adapter = s.adapter ∧
      s'.gateway.path = s.gateway.path ∧ s'.gateway.stock = s.gateway.stock ∧
      (select s).trace.debugLines = Selection.told selection := by
  obtain ⟨hresult, hsession, htrace⟩ := select_spec s
  rw [h] at hresult hsession
  dsimp only at hresult hsession
  obtain ⟨hstock, htold⟩ := Selection.tells_selectSet s.gateway
  have hpath := Library.path_of_lasting (obeys_selectSet Library.reading_using s.gateway).1
  cases hfound : (selectSet s.gateway).value.1 with
  | error f =>
    rw [hfound] at hresult
    cases hresult
  | ok selection =>
    rw [hfound] at htold
    refine ⟨selection, ?_, ?_, ?_, ?_, by rw [htrace]; exact htold⟩
    · rw [hsession, hfound]
      rfl
    · rw [hsession]
    · rw [hsession]
      exact hpath
    · rw [hsession]
      exact hstock

end Session

/-! ## The two stories -/

/-- The findings from a library to a set, if a name is told for that. -/
def story (path : Path) (count : Nat) (adapter : AdapterInfo) (set : Option String) :
    List Finding :=
  [.library path, .adapters count, .intel adapter] ++ set.toList.map .metricSet

namespace Program

open Library (Tries couldNotLoad)

section
variable {loader : Loader} {config : Config} {s : Session Library}

/-- What is told before the loop, stage by stage. -/
structure Told (loader : Loader) (config : Config) (s : Session Library) (script : Script)
    (refused : List (Path × String)) (adapter : AdapterInfo) (selection : Selection) : Prop where
  loaded : loader s.gateway.path = .opens script
  tries : Tries loader config.candidates refused (some s.gateway.path)
  adapter_eq : s.adapter = some adapter
  selection_eq : s.selection = some selection
  count_pos : 0 < script.group.adapterCount
  given : script.group.stock.readGroup.group.take.1 = true
  stock_eq : s.gateway.stock = some script.group.stock.readGroup.afterListing
  logged : (prepare loader config).trace.debugLines =
    Trace.debugLines (refused.map couldNotLoad) ++
      (story s.gateway.path script.group.adapterCount adapter
        (some (nameOrUnknown selection.name))).map (Finding.record script.group.version)

theorem exists_told (h : Prepared loader config s) :
    ∃ script refused adapter selection, Told loader config s script refused adapter selection := by
  obtain ⟨lib, opened, id, hload, hstart, hselect⟩ := h
  obtain ⟨refused, found, htries⟩ := Library.exists_tries loader config.candidates
  have hsearch := Library.load_of_tries htries
  -- the search has ended at the path of the library
  have hvalue : Library.outcome loader config.candidates found = .ok lib := by
    rw [← hload, hsearch]
  obtain ⟨path, rfl⟩ : ∃ path, found = some path := by
    cases found with
    | none => cases hvalue
    | some path => exact ⟨path, rfl⟩
  obtain ⟨script, hscript⟩ : ∃ script, loader path = .opens script := by
    rw [Library.outcome] at hvalue
    cases hpath : loader path with
    | opens script => exact ⟨script, rfl⟩
    | _ => rw [hpath] at hvalue; cases hvalue
  rw [Library.outcome, hscript, Library.outcomeAt] at hvalue
  obtain rfl := Except.ok.inj hvalue
  obtain ⟨adapter, hstarted⟩ := Session.exists_started rfl rfl hstart
  obtain ⟨selection, hselection, hadapter, hpath, hstock, htold⟩ := Session.select_ok hselect
  have hplace : s.gateway.path = path := by rw [hpath]; exact hstarted.path_eq
  refine ⟨script, refused, adapter, selection, ?_, ?_, ?_, hselection, hstarted.count_pos,
    hstarted.given, ?_, ?_⟩
  · rw [hplace, hscript]
  · rw [hplace]
    exact htries
  · rw [hadapter]
    exact hstarted.adapter_eq
  · rw [hstock]
    exact hstarted.stock_eq
  · rw [(prepare_of_selected hload hstart hselect).2, Trace.debugLines_append,
      Trace.debugLines_append, hsearch, Trace.debugLines_append, hstarted.told, htold, hplace,
      List.append_assoc]
    rfl

/-- The report tells the adapters that it lists itself, and the name of the set if it has one. -/
theorem startupLines_eq {adapter : AdapterInfo} {selection : Selection}
    (hadapter : s.adapter = some adapter) (hselection : s.selection = some selection) :
    startupLines s =
      (story s.gateway.path (Session.adapters s).value.1.length adapter selection.name).map
        Finding.line := by
  have hname : s.selection.bind Selection.name = selection.name := by
    rw [hselection]
    rfl
  rw [startupLines, hadapter, hname]
  cases selection.name <;> rfl

end

/-! ### When the stories are the same -/

theorem story_eq_iff {path : Path} {count count' : Nat} {adapter : AdapterInfo}
    {set : Option String} {name : String} :
    story path count adapter set = story path count' adapter (some name) ↔
      count = count' ∧ set = some name := by
  cases set <;> simp [story]

/-- Stories of one library and one adapter that are printed in the same lines are the same. -/
theorem story_eq_of_lines_eq {path : Path} {count count' : Nat} {adapter : AdapterInfo}
    {set : Option String} {name : String}
    (h : (story path count adapter set).map Finding.line =
      (story path count' adapter (some name)).map Finding.line) :
    story path count adapter set = story path count' adapter (some name) := by
  -- the lines are as many, so the set is told on both sides
  cases set with
  | none => exact absurd (congrArg List.length h) (by simp [story])
  | some other =>
    obtain ⟨-, hrest⟩ := List.cons.inj h
    obtain ⟨hcount, hrest⟩ := List.cons.inj hrest
    obtain ⟨-, hrest⟩ := List.cons.inj hrest
    have hdecimal : Text.decimal count = Text.decimal count' :=
      (String.append_right_inj "Found ").1 ((String.append_left_inj " adapter(s)").1 hcount)
    have hname : other = name :=
      (String.append_right_inj "Selected metric set: ").1 (List.cons.inj hrest).1
    exact story_eq_iff.2 ⟨Text.decimal_injective hdecimal, congrArg some hname⟩

section
variable {loader : Loader} {config : Config} {s : Session Library} {script : Script}
  {refused : List (Path × String)} {adapter : AdapterInfo} {selection : Selection}

/-- The report lists as many adapters as the log has told if and only if the group has given its
parameters a third time, and every adapter that it reports is there and has given its own twice. -/
theorem Told.length_adapters_iff (h : Told loader config s script refused adapter selection) :
    (Session.adapters s).value.1.length = script.group.adapterCount ↔
      script.group.availability.Lasts 3 ∧ ∀ i < script.group.adapterCount,
        ∃ a, script.group.adapters[i]?.join = some a ∧ a.availability.Lasts 2 := by
  have hlength : (Session.adapters s).value.1.length =
      script.group.stock.readGroup.afterListing.listed :=
    (Library.length_listAdapters h.stock_eq).1
  rw [hlength]
  refine (Stock.listed_again_iff (k := script.group.stock) h.count_pos h.given).trans ?_
  refine and_congr Iff.rfl (forall₂_congr fun i _ => ?_)
  show (∃ left, script.group.adapters[i]?.join.map Adapter.availability = some left ∧ _) ↔ _
  simp only [Option.map_eq_some_iff, exists_exists_and_eq_and]

end

/--
**The startup report and the log tell the same story as long as the tree goes on answering.** Let a
library be loaded, a session started on it and a metric set selected. After the paths that could not
be loaded, the log has told the path of the library, how many adapters the group has reported, the
adapter of Intel, and the name of the set or that it is unknown. The report then prints the same
path and the same adapter, but as many adapters as it lists itself, and the set only if it has a
name.

The two stories are the same if and only if the adapter group gives its parameters at least three
times, every adapter below the reported count is there and gives its own at least twice, and the
selected set has a name. Where they are not, the lines show it.
-/
theorem stories_agree_iff {loader : Loader} {config : Config} {s : Session Library}
    (h : Prepared loader config s) :
    ∃ script refused adapter selection,
      loader s.gateway.path = .opens script ∧
      Tries loader config.candidates refused (some s.gateway.path) ∧
      s.adapter = some adapter ∧ s.selection = some selection ∧
      let logged := story s.gateway.path script.group.adapterCount adapter
        (some (nameOrUnknown selection.name))
      let printed := story s.gateway.path (Session.adapters s).value.1.length adapter selection.name
      (prepare loader config).trace.debugLines =
        Trace.debugLines (refused.map couldNotLoad) ++
          logged.map (Finding.record script.group.version) ∧
      (report s).trace.printed .output = textOf (printed.map Finding.line) ∧
      (printed.map Finding.line = logged.map Finding.line → printed = logged) ∧
      (printed = logged ↔
        script.group.availability.Lasts 3 ∧
        (∀ i < script.group.adapterCount,
          ∃ a, script.group.adapters[i]?.join = some a ∧ a.availability.Lasts 2) ∧
        selection.name.isSome) := by
  obtain ⟨script, refused, adapter, selection, htold⟩ := exists_told h
  refine ⟨script, refused, adapter, selection, htold.loaded, htold.tries, htold.adapter_eq,
    htold.selection_eq, htold.logged, ?_, story_eq_of_lines_eq, ?_⟩
  · rw [printed_report, startupLines_eq htold.adapter_eq htold.selection_eq]
  · -- the log names every set, the report only one that has a name
    have hname : selection.name = some (nameOrUnknown selection.name) ↔
        selection.name.isSome = true := by
      cases selection.name <;> simp [nameOrUnknown]
    rw [story_eq_iff, htold.length_adapters_iff, hname, and_assoc]

/-- A library of one adapter of Intel, whose device has one metric set, of the one metric
`RenderBusy`. -/
def oneSet (name : RawName) (availability : Availability) : Script where
  group := { adapterCount := 1, adapters := [some adapter], availability }
where
  metric : Metric := { symbolName := some [82, 101, 110, 100, 101, 114, 66, 117, 115, 121] }
  set : MetricSet := { symbolName := name, metricCount := 1, metrics := [some metric] }
  adapter : Adapter :=
    { vendorId := 0x8086
      deviceId := 0x5917
      device := { groupCount := 1, groups := [some { setCount := 1, sets := [some set] }] } }

/-- The set is called `S`, and the adapter group goes on giving its parameters. -/
theorem stories_agree_named :
    let loader : Loader := fun _ => .opens (oneSet (some [83]) .always)
    ∃ (s : Session Library) (findings : List Finding), Prepared loader {} s ∧
      (prepare loader {}).trace.debugLines = findings.map (Finding.record ⟨0, 0, 0⟩) ∧
      (report s).trace.printed .output = textOf (findings.map Finding.line) := by
  intro loader
  have hnames : (prepare loader {}).value.map (fun s => s.selection.bind Selection.name) =
      .ok (some "S") := by decide +kernel
  obtain ⟨s, hs⟩ : ∃ s, (prepare loader {}).value = .ok s := by
    cases h : (prepare loader {}).value with
    | ok s => exact ⟨s, rfl⟩
    | error trouble => rw [h] at hnames; cases hnames
  obtain ⟨script, refused, adapter, selection, hscript, htries, -, hselection, hlogged, hprinted, -,
    hsame⟩ := stories_agree_iff (prepared_iff.2 hs)
  obtain rfl : oneSet (some [83]) .always = script := Loading.opens.inj hscript
  -- no path is refused
  obtain rfl : refused = [] := by
    cases refused with
    | nil => rfl
    | cons refusal rest => cases htries.fails refusal List.mem_cons_self
  have hname : selection.name.isSome = true := by
    rw [hs, Except.map, hselection] at hnames
    rw [show selection.name = some "S" from Except.ok.inj hnames]
    rfl
  have hequal := hsame.2 ⟨trivial, fun i hi => ?_, hname⟩
  · rw [hequal] at hprinted
    exact ⟨s, _, prepared_iff.2 hs, hlogged, hprinted⟩
  · obtain rfl := Nat.lt_one_iff.1 hi
    exact ⟨_, rfl, trivial⟩

/-- The set has no name, and the adapter group gives its parameters only twice. -/
theorem stories_differ_fading :
    let loader : Loader := fun _ => .opens (oneSet none (.reads 2))
    ∃ s, Prepared loader {} s ∧
      (prepare loader {}).trace.debugLines =
        ["Loaded library from: ./dump/linux64/release/metrics_discovery/libigdmd.so",
          "Found 1 adapter(s) (API 0.0.0)", "Found Intel GPU: Unknown (Device ID: 0x5917)",
          "Selected metric set: Unknown"] ∧
      (report s).trace.printed .output = textOf
        ["Loaded library from: ./dump/linux64/release/metrics_discovery/libigdmd.so",
          "Found 0 adapter(s)", "Found Intel GPU: Unknown (Device ID: 0x5917)"] := by
  intro loader
  have hreport : (prepare loader {}).value.map (fun s => (report s).trace.printed .output) =
      .ok (textOf
        ["Loaded library from: ./dump/linux64/release/metrics_discovery/libigdmd.so",
          "Found 0 adapter(s)", "Found Intel GPU: Unknown (Device ID: 0x5917)"]) := by
    decide +kernel
  cases h : (prepare loader {}).value with
  | error trouble => rw [h] at hreport; cases hreport
  | ok s =>
    rw [h] at hreport
    exact ⟨s, prepared_iff.2 h, by decide +kernel, Except.ok.inj hreport⟩

end Program
end GpuMonitor
