import GpuMonitor.Proofs.Arguments
import GpuMonitor.Proofs.Watching

/-!
# How a run ends

A run goes through stages: it loads the library, starts a session, selects a metric set, and
runs its loop. The first three decide about its status; what is printed and what is released
depend on how far it has come. The arguments are read by any parser that refuses a library with
an empty path.

* `Trace.Released`: the calls are those of a whole life, and the unloading is the last one.
* `Session.Cycling`: a session stays in use, and its calls are those of some cycles.
* `Prepared`: the session that the loop is run on. `prepared_iff`: the stages before the loop
  give it, or fail.
* `released_of_unprepared`, `released_of_prepared`: either way everything is released.
* `attend_spec`: what comes of the loop and of what is around it.
* `Meets`: the configuration is what the options ask for. `execute_of_accepted`: a run with
  arguments is the run with the configuration.
* `Outcome`: what a run has come to. `outcome_of_unprepared`, `outcome_of_prepared`: each run
  that has ended has this outcome, with status 1 or 0.

Main result:

* `run_outcome`: status, output and calls of every run that ends.
-/

namespace GpuMonitor

open Vendor Monitor

/-- The unloading is the last call. -/
def Trace.Unloads (t : Trace) : Prop := ∃ before, t.calls = before ++ [.unload]

theorem Trace.Unloads.append_left {u : Trace} (h : u.Unloads) (t : Trace) : (t ++ u).Unloads := by
  obtain ⟨before, hlast⟩ := h
  exact ⟨t.calls ++ before, by rw [calls_append, hlast, List.append_assoc]⟩

/-- The calls are those of a whole life, and the unloading is the last one. -/
structure Trace.Released (t : Trace) : Prop where
  last : t.Unloads
  life : ∃ selected word, Session.LifeWord selected word ∧ t.lifecycle.calls = word.calls

theorem Trace.calls_lifecycle (t : Trace) :
    t.lifecycle.calls = t.calls.filter fun call => call.text?.isSome := by
  simp only [lifecycle, calls, List.filterMap_filter, List.filter_filterMap]
  refine congrArg (fun f => List.filterMap f t) (funext fun e => ?_)
  cases e with
  | vendor call =>
    by_cases h : call.text?.isSome <;> simp [Event.isLifecycle, Event.call?, Option.filter, h]
  | _ => simp [Event.isLifecycle, Event.call?]

theorem Trace.Released.congr {t u : Trace} (h : t.Released) (hcalls : u.calls = t.calls) :
    u.Released := by
  obtain ⟨⟨before, hlast⟩, selected, word, hword, hsame⟩ := h
  refine ⟨⟨before, hcalls.trans hlast⟩, selected, word, hword, ?_⟩
  rw [calls_lifecycle, hcalls, ← calls_lifecycle, hsame]

namespace Session

/-! ## What is called up to the end -/

/-- The session stays in use, and its calls are those of some cycles. -/
def Cycling (a : Nat) (s : Session Library) (t : Trace) (s' : Session Library) : Prop :=
  InUse a s → InUse a s' ∧ ∃ cycles, t.lifecycle.calls = (Cycle.words a cycles).calls ∧
    s'.active = Cycle.pendingAfter s.active cycles

theorem composes_cycling (a : Nat) : Composes (Cycling a) where
  nil s h := ⟨h, [], rfl, rfl⟩
  append h h' hs := by
    obtain ⟨hs', xs, hcalls, hactive⟩ := h hs
    obtain ⟨hs'', ys, hcalls', hactive'⟩ := h' hs'
    refine ⟨hs'', xs ++ ys, ?_, ?_⟩
    · rw [Trace.lifecycle_append, Trace.calls_append, hcalls, hcalls', Cycle.words_append,
        Trace.calls_append]
    · rw [hactive', hactive, Cycle.pendingAfter_append]

/-- A step of the course that does not release the session. -/
theorem Advances.cycling {a : Nat} {s s' : Session Library} {t : Trace} (h : Advances a s t s')
    (hr : s'.released = s.released) : Cycling a s t s' := by
  intro hs
  obtain ⟨cycles, ⟨hs', htrace, hactive⟩ | ⟨hover, -⟩⟩ := h.whenInUse hs
  · exact ⟨hs', cycles, by rw [htrace], hactive⟩
  · have hreleased := hover.released
    rw [hr, hs.released] at hreleased
    cases hreleased

/-- An event that is no call changes nothing. -/
theorem cycling_event (a : Nat) (s : Session Library) {e : Event} (h : e.call? = none) :
    Cycling a s [e] s := by
  refine fun hs => ⟨hs, [], ?_, rfl⟩
  cases e with
  | vendor call => cases h
  | _ => rfl

theorem cycling_adapters (a : Nat) : Obeys (Cycling a) (adapters (γ := Library)) := fun s =>
  (advances_onGateway (obeys_listAdapters Library.reading_using) s).cycling rfl

theorem cycling_select (a : Nat) : Obeys (Cycling a) (select (γ := Library)) := by
  intro s
  refine (advances_select a s).cycling ?_
  rw [(select_spec s).2.1]

theorem cycling_sample (a : Nat) : Obeys (Cycling a) (sample (γ := Library)) := by
  intro s hs
  obtain ⟨cycles, htrace, hs', hactive⟩ := sample_inUse hs
  exact ⟨hs', cycles, by rw [htrace], hactive⟩

/-- The end of a session ends with the unloading. -/
theorem unloads_finish {s : Session Library} (h : Ready s) : (finish s).trace.Unloads := by
  obtain ⟨s₁, s₂, lib, -, -, -, -, htrace, -, hover⟩ := release_of_ready h
  rw [(finish_of_gone hover.gone).2, htrace]
  have hunload : lib.unloading.Unloads := ⟨[], lib.calls_unloading⟩
  exact (((hunload.append_left _).append_left _).append_left _).append_left _

/-- A start that fails releases what it has opened. -/
theorem released_of_start_error {loader : Loader} {candidates : List Path} {lib : Library}
    {f : Failure} (hload : (Library.load loader candidates).value = .ok lib)
    (hstart : (start lib).value = .error f) : (start lib).trace.Released := by
  obtain ⟨path, script, rfl⟩ := Library.loaded_of_load hload
  -- the start fails at the adapter group, or with the group open and no device held
  cases opensAll_openAll { path, vendor := .fresh script } rfl rfl rfl with
  | refused f code given hf hs hno ht =>
    obtain ⟨⟨_, hrelease⟩, hover⟩ := release_idle hs
    rw [(start_error hf).2]
    refine ⟨(unloads_finish hs.ready).append_left _, none, _, .refused code given hno, ?_⟩
    rw [Trace.lifecycle_append, ht, (finish_of_gone hover.gone).2, hrelease]
    rfl
  | failed f word hf hs hw ht =>
    obtain ⟨⟨code, hrelease⟩, hover⟩ := release_idle hs
    rw [(start_error hf).2]
    refine ⟨(unloads_finish hs.ready).append_left _, none, _, .used word code hw, ?_⟩
    rw [Trace.lifecycle_append, ht, (finish_of_gone hover.gone).2, hrelease]
    rfl
  | opened i hf hs hactive ht =>
    rw [(start_ok hf).1] at hstart
    cases hstart

/-- A session that has started, made some cycles and come to its end has released everything. -/
theorem released_of_cycling {loader : Loader} {candidates : List Path} {lib : Library}
    {s : Session Library} (hload : (Library.load loader candidates).value = .ok lib)
    (hstart : (start lib).value = .ok s) (window : Duration) {t : Trace} {s' : Session Library}
    (h : ∀ a, Cycling a { s with window } t s') :
    ((start lib).trace ++ (t ++ (finish s').trace)).Released := by
  obtain ⟨i, hs, hactive, hopening⟩ := inUse_of_start hload hstart
  -- the window is no part of what it is to be in use
  obtain ⟨hs', cycles, hcalls, howed⟩ := h i { hs with }
  -- what is owed at the end is what the cycles have left
  obtain ⟨last, code, code', hdeactivating, hclosing⟩ := finish_inUse hs'
  have howes : s'.active = Cycle.pendingAfter false cycles := by
    rw [howed]
    exact congrArg (fun owed => Cycle.pendingAfter owed cycles) hactive
  rw [howes] at hdeactivating
  refine ⟨((unloads_finish hs'.ready).append_left _).append_left _, (finish s').value.2.selected,
    _, .used _ code' (.used i cycles last code hdeactivating), ?_⟩
  rw [Trace.lifecycle_append, Trace.lifecycle_append, hopening, hclosing, Trace.calls_append,
    Trace.calls_append, hcalls]
  simp [Trace.calls, Event.call?]

end Session

namespace Program

/-! ## The stages before the loop -/

/-- The library loads, a session starts on it, and a metric set is selected; this is the session
that has it. -/
def Prepared (loader : Loader) (config : Config) (s : Session Library) : Prop :=
  ∃ lib opened id, (Library.load loader config.candidates).value = .ok lib ∧
    (Session.start lib).value = .ok opened ∧
    (Session.select { opened with window := config.window }).value = (.ok id, s)

section
variable {loader : Loader} {config : Config} {lib : Library} {opened s : Session Library}
  {f : Failure}

theorem prepare_of_unloaded (hload : (Library.load loader config.candidates).value = .error f) :
    (prepare loader config).value =
        .error ⟨["Failed to initialize Metrics Discovery API"], f⟩ ∧
      (prepare loader config).trace = (Library.load loader config.candidates).trace := by
  simp [prepare, setUp, hload]

variable (hload : (Library.load loader config.candidates).value = .ok lib)
include hload

theorem prepare_of_unstarted (hstart : (Session.start lib).value = .error f) :
    (prepare loader config).value =
        .error ⟨["Failed to initialize Metrics Discovery API"], f⟩ ∧
      (prepare loader config).trace =
        (Library.load loader config.candidates).trace ++ (Session.start lib).trace := by
  simp [prepare, setUp, hload, hstart]

variable (hstart : (Session.start lib).value = .ok opened)
include hstart

theorem prepare_of_unselected
    (hselect : (Session.select { opened with window := config.window }).value = (.error f, s)) :
    (prepare loader config).value = .error ⟨["Failed to find GPU utilization metrics"], f⟩ ∧
      (prepare loader config).trace =
        (Library.load loader config.candidates).trace ++ ((Session.start lib).trace ++
          ((Session.select { opened with window := config.window }).trace ++
            (Session.finish s).trace)) := by
  simp [prepare, setUp, choose, hload, hstart, hselect]
  exact ⟨rfl, rfl⟩

theorem prepare_of_selected {id : MetricSetId}
    (hselect : (Session.select { opened with window := config.window }).value = (.ok id, s)) :
    (prepare loader config).value = .ok s ∧
      (prepare loader config).trace =
        (Library.load loader config.candidates).trace ++ ((Session.start lib).trace ++
          (Session.select { opened with window := config.window }).trace) := by
  simp [prepare, setUp, choose, hload, hstart, hselect]

end

/-! ## The loop and what is around it -/

/-- Some lines, each with the newline that ends it. -/
def textOf (lines : List String) : String := String.join (lines.map (· ++ "\n"))

theorem textOf_append (lines more : List String) :
    textOf (lines ++ more) = textOf lines ++ textOf more := by
  simp [textOf]

/-- The lines that every run begins with. -/
def banner : List String := ["Intel GPU Usage Monitor", "======================"]

/-- The lines that report the session that the loop is run on. -/
def startupLines (s : Session Library) : List String :=
  ["Loaded library from: " ++ s.gateway.path.text,
    "Found " ++ Text.decimal (Session.adapters s).value.1.length ++ " adapter(s)"] ++
  (s.adapter.map Session.foundText).toList ++
  ((s.selection.bind Selection.name).map ("Selected metric set: " ++ ·)).toList

/-- The lines between the report and those of the loop. -/
def announcement (mode : Mode) : List String :=
  ["", "Monitoring GPU usage...",
    if mode = .snapshot then "Mode: Single snapshot"
    else "Mode: Continuous (press Ctrl+C to stop)", ""]

/-- The report lists the adapters, and then prints its lines. -/
theorem report_spec (s : Session Library) :
    (report s).value.2 = (Session.adapters s).value.2 ∧
      (report s).trace =
        (Session.adapters s).trace ++ (startupLines s).map (Trace.printedLine .output) := by
  cases ha : s.adapter <;> cases hn : s.selection.bind Selection.name <;>
    simp only [report, startupLines, Action.value_bind, Action.trace_bind, Action.value_get,
      Action.trace_get, Action.value_printLine, Action.trace_printLine, ha, hn, Action.value_pure,
      Action.trace_pure, List.nil_append, List.append_nil] <;> exact ⟨trivial, rfl⟩

theorem printed_report (s : Session Library) :
    (report s).trace.printed .output = textOf (startupLines s) := by
  have hsilent : (Session.adapters s).trace.printed .output = "" :=
    printed_of_silent (Session.silent_adapters s) _
  rw [(report_spec s).2, Trace.printed_append, hsilent, Trace.printed_map_printedLine,
    String.empty_append]
  rfl

theorem announce_spec {σ : Type} (mode : Mode) (s : σ) :
    announce mode s =
      { value := ((), s), trace := (announcement mode).map (Trace.printedLine .output) } := by
  cases mode <;> apply Traced.ext' <;> rfl

/-! ### The loop -/

theorem cycling_printLine (a : Nat) (line : String) :
    Obeys (Session.Cycling a) (printLine .output line) :=
  fun s => Session.cycling_event a s rfl

theorem cycling_report (a : Nat) : Obeys (Session.Cycling a) report := by
  have hc := Session.composes_cycling a
  refine obeys_bind hc (obeys_get hc) fun s => ?_
  refine obeys_bind hc (Session.cycling_adapters a) fun adapters => ?_
  refine obeys_bind hc (cycling_printLine a _) fun _ => ?_
  refine obeys_bind hc (cycling_printLine a _) fun _ => ?_
  -- the adapter and the set are reported if there are any
  cases s.adapter with
  | none =>
    cases s.selection.bind Selection.name with
    | none => exact obeys_pure hc ()
    | some name => exact cycling_printLine a _
  | some adapter =>
    refine obeys_bind hc (cycling_printLine a _) fun _ => ?_
    cases s.selection.bind Selection.name with
    | none => exact obeys_pure hc ()
    | some name => exact cycling_printLine a _

theorem cycling_announce (a : Nat) (mode : Mode) : Obeys (Session.Cycling a) (announce mode) := by
  have hc := Session.composes_cycling a
  exact obeys_bind hc (cycling_printLine a _) fun _ =>
    obeys_bind hc (cycling_printLine a _) fun _ =>
      obeys_bind hc (cycling_printLine a _) fun _ => cycling_printLine a _

/-- Printing, resting and logging are no calls, so the loop makes cycles as its samples do. -/
theorem cycling_observe (a : Nat) (config : Config) (stop : Option Nat) (bound : Nat) :
    Obeys (Session.Cycling a) (observe config stop bound) := by
  have hc := Session.composes_cycling a
  have hS : Setting.Obeying (fun w t w' => Session.Cycling a w.session t w'.session)
      (Watch.setting stop) :=
    { composes := ⟨fun w => hc.nil w.session, fun h h' => hc.append h h'⟩
      write := fun text w => Session.cycling_event a w.session rfl
      flush := fun w => hc.nil w.session
      pause := fun length w => Session.cycling_event a w.session rfl
      logging := fun w level text => Session.cycling_event a w.session rfl
      sample := fun w => Session.cycling_sample a w.session }
  intro s
  exact obeys_run hS config.mode config.interval bound { session := s }

/-! ### After the loop -/

/-- A session is ended by its release, and then nothing is left to do. -/
theorem conclude_spec (summary : Summary) {s : Session Library} (h : Session.Ready s) :
    (conclude summary s).trace.printed .output = textOf ["GPU monitoring completed"] ∧
      (conclude summary s).trace.calls = (Session.finish s).trace.calls := by
  obtain ⟨-, -, -, -, -, -, -, -, -, hover⟩ := Session.release_of_ready h
  -- the release has unloaded the library, so the end has nothing to call
  have hend := (Session.finish_over hover).2
  have htrace : (conclude summary s).trace = [.log .info ("Stopped after " ++
      Text.decimal summary.samples ++ " sample(s): " ++ summary.reason.name)] ++
        ((Session.finish s).trace ++ [Trace.printedLine .output "GPU monitoring completed"]) := by
    simp [conclude, hend, (Session.finish_of_gone hover.gone).2, Trace.printedLine]
  have hsilent : (Session.finish s).trace.printed .output = "" :=
    printed_of_silent (Session.silent_finish s) _
  constructor
  · rw [htrace, Trace.printed_append, Trace.printed_append, hsilent]
    rfl
  · rw [htrace, Trace.calls_append, Trace.calls_append]
    exact List.append_nil _

/-- From the report to the end: the loop meets its bound, or it ends, everything is printed, and
the session is ended, whatever has ended the loop. -/
theorem attend_spec (config : Config) (stop : Option Nat) (bound : Nat) {a : Nat}
    {s : Session Library} (h : Session.InUse a s) :
    let reported := (report s).value.2
    ((attend config stop bound s).value.1 = .running ∧
      ∀ k < bound, Watch.lastRound? config.mode config.interval stop reported k = none) ∨
    ((attend config stop bound s).value.1 = .success ∧
      (∃ n summary, Ends config stop bound reported n summary) ∧
      (attend config stop bound s).trace.printed .output =
        textOf (startupLines s ++ announcement config.mode) ++
          (observe config stop bound reported).trace.printed .output ++
            textOf ["GPU monitoring completed"] ∧
      ∃ t s', (∀ a, Session.Cycling a s t s') ∧
        (attend config stop bound s).trace.calls = (t ++ (Session.finish s').trace).calls) := by
  intro reported
  -- whatever ends the loop, the session is left in use, and its end is still to come
  have hcycles (a : Nat) : Session.Cycling a s
      ((report s).trace ++ ((announcement config.mode).map (Trace.printedLine .output) ++
        (observe config stop bound reported).trace))
      (observe config stop bound reported).value.2 := by
    have hannounces := cycling_announce a config.mode reported
    rw [announce_spec] at hannounces
    have hc := Session.composes_cycling a
    exact hc.append (cycling_report a s)
      (hc.append hannounces (cycling_observe a config stop bound reported))
  rcases observe_spec config stop bound reported with ⟨hmet, hall⟩ | ⟨n, summary, hends⟩
  · refine .inl ⟨?_, hall⟩
    simp [attend, announce_spec, reported, hmet]
  · have hok : (observe config stop bound reported).value.1 = .ok summary := by rw [hends.value]
    have htrace : (attend config stop bound s).trace =
        (report s).trace ++ ((announcement config.mode).map (Trace.printedLine .output) ++
          ((observe config stop bound reported).trace ++
            (conclude summary (observe config stop bound reported).value.2).trace)) := by
      simp [attend, announce_spec, reported, hok]
    obtain ⟨hcompleted, hfinished⟩ := conclude_spec summary (hcycles a h).1.ready
    have hannounced : Trace.printed .output ((announcement config.mode).map
        (Trace.printedLine .output)) = textOf (announcement config.mode) :=
      Trace.printed_map_printedLine .output _
    refine .inr ⟨?_, ⟨n, summary, hends⟩, ?_, _, _, hcycles, ?_⟩
    · simp [attend, announce_spec, reported, hok]
    · rw [htrace, Trace.printed_append, Trace.printed_append, Trace.printed_append,
        printed_report, hannounced, hcompleted, textOf_append]
      simp only [String.append_assoc]
    · rw [htrace]
      simp only [Trace.calls_append, hfinished, List.append_assoc]

/-! ## A run -/

section
variable {loader : Loader} {config : Config} {lib : Library} {s : Session Library}

/-- The stages before the loop succeed together. -/
theorem prepared_iff :
    Prepared loader config s ↔ (prepare loader config).value = .ok s := by
  cases hload : (Library.load loader config.candidates).value with
  | error f => simp [Prepared, hload, (prepare_of_unloaded hload).1]
  | ok lib =>
    cases hstart : (Session.start lib).value with
    | error f => simp [Prepared, hload, hstart, (prepare_of_unstarted hload hstart).1]
    | ok opened =>
      rcases hselect : (Session.select { opened with window := config.window }).value with
        ⟨_ | id, s'⟩
      · simp [Prepared, hload, hstart, hselect, (prepare_of_unselected hload hstart hselect).1]
      · simp [Prepared, hload, hstart, hselect, (prepare_of_selected hload hstart hselect).1]

theorem prepared_unique {s' : Session Library} (h : Prepared loader config s)
    (h' : Prepared loader config s') : s = s' := by
  rw [prepared_iff] at h h'
  exact Except.ok.inj (h.symm.trans h')

/-- The loading leaves no calls, so what follows it is what counts. -/
theorem released_after_load {t : Trace} (h : t.Released) :
    ((Library.load loader config.candidates).trace ++ t).Released :=
  h.congr (by rw [Trace.calls_append, Library.calls_load, List.nil_append])

/-- A stage that fails releases what the stages before it have opened. -/
theorem released_of_unprepared {trouble : Trouble}
    (hload : (Library.load loader config.candidates).value = .ok lib)
    (h : (prepare loader config).value = .error trouble) :
    (prepare loader config).trace.Released := by
  cases hstart : (Session.start lib).value with
  | error f =>
    rw [(prepare_of_unstarted hload hstart).2]
    exact released_after_load (Session.released_of_start_error hload hstart)
  | ok opened =>
    rcases hselect : (Session.select { opened with window := config.window }).value with
      ⟨f | id, s⟩
    · have hselects (a : Nat) := Session.cycling_select a { opened with window := config.window }
      rw [hselect] at hselects
      rw [(prepare_of_unselected hload hstart hselect).2]
      exact released_after_load
        (Session.released_of_cycling hload hstart config.window hselects)
    · rw [(prepare_of_selected hload hstart hselect).1] at h
      cases h

/-- The session that the loop is run on is in use, and its end releases everything. -/
theorem released_of_prepared (h : Prepared loader config s) :
    (∃ i, Session.InUse i s) ∧ ∀ t s', (∀ a, Session.Cycling a s t s') →
      ((prepare loader config).trace ++ (t ++ (Session.finish s').trace)).Released := by
  obtain ⟨lib, opened, id, hload, hstart, hselect⟩ := h
  have hselects (a : Nat) := Session.cycling_select a { opened with window := config.window }
  rw [hselect] at hselects
  constructor
  · obtain ⟨i, hs, -⟩ := Session.inUse_of_start hload hstart
    exact ⟨i, (hselects i { hs with }).1⟩
  · intro t s' ht
    rw [(prepare_of_selected hload hstart hselect).2]
    have hreleased := Session.released_of_cycling hload hstart config.window fun a =>
      (Session.composes_cycling a).append (hselects a) (ht a)
    simpa using released_after_load hreleased

theorem printed_prepare (loader : Loader) (config : Config) :
    (prepare loader config).trace.printed .output = "" := by
  have hload : (Library.load loader config.candidates).trace.printed .output = "" :=
    printed_of_silent (Library.silent_load loader config.candidates) _
  have hstart (lib : Library) : (Session.start lib).trace.printed .output = "" :=
    printed_of_silent (Session.silent_start lib) _
  have hselect (s : Session Library) : (Session.select s).trace.printed .output = "" :=
    printed_of_silent (Session.silent_select s) _
  have hfinish (s : Session Library) : (Session.finish s).trace.printed .output = "" :=
    printed_of_silent (Session.silent_finish s) _
  cases hloaded : (Library.load loader config.candidates).value with
  | error f => rw [(prepare_of_unloaded hloaded).2, hload]
  | ok lib =>
    cases hstarted : (Session.start lib).value with
    | error f =>
      simp only [(prepare_of_unstarted hloaded hstarted).2, Trace.printed_append, hload, hstart,
        String.append_empty]
    | ok opened =>
      rcases hselected : (Session.select { opened with window := config.window }).value with
        ⟨f | id, s⟩
      · simp only [(prepare_of_unselected hloaded hstarted hselected).2, Trace.printed_append,
          hload, hstart, hselect, hfinish, String.append_empty]
      · simp only [(prepare_of_selected hloaded hstarted hselected).2, Trace.printed_append,
          hload, hstart, hselect, String.append_empty]

end

/-- What goes before the stages: the banner, and a log record. -/
def opening : Trace :=
  banner.map (Trace.printedLine .output) ++
    [.log .info "Initializing Intel Metrics Discovery API..."]

theorem printed_opening : opening.printed .output = textOf banner := by
  rw [opening, Trace.printed_append, Trace.printed_map_printedLine]
  exact String.append_empty

theorem complain_spec (t : Trouble) :
    (complain t).trace.printed .output = "" ∧ (complain t).trace.calls = [] := by
  unfold complain
  cases hint? t.failure <;>
    simp [Traced.printLine, Traced.emit, Trace.printed, Trace.calls, Event.call?]

section
variable {around : Surroundings} {config : Config}

theorem runWith_of_unprepared {trouble : Trouble}
    (h : (prepare around.loader config).value = .error trouble) :
    (runWith around config).value = .failure ∧
      (runWith around config).trace.printed .output = textOf banner ∧
      (runWith around config).trace.calls = (prepare around.loader config).trace.calls := by
  have htrace : (runWith around config).trace =
      opening ++ ((prepare around.loader config).trace ++ (complain trouble).trace) := by
    simp [runWith, h, opening, banner, Traced.printLine, Traced.emit, Traced.log,
      Trace.printedLine]
    rfl
  obtain ⟨hprinted, hcalls⟩ := complain_spec trouble
  refine ⟨?_, ?_, ?_⟩
  · simp [runWith, h]
    rfl
  · rw [htrace, Trace.printed_append, Trace.printed_append, printed_prepare, hprinted,
      printed_opening]
    simp only [String.append_empty]
  · rw [htrace, Trace.calls_append, Trace.calls_append, hcalls, List.append_nil]
    rfl

theorem runWith_of_prepared {s : Session Library}
    (h : (prepare around.loader config).value = .ok s) :
    (runWith around config).value = (attend config around.stop around.bound s).value.1 ∧
      (runWith around config).trace.printed .output = textOf banner ++
        (attend config around.stop around.bound s).trace.printed .output ∧
      (runWith around config).trace.calls = ((prepare around.loader config).trace ++
        (attend config around.stop around.bound s).trace).calls := by
  have htrace : (runWith around config).trace = opening ++
      ((prepare around.loader config).trace ++
        (attend config around.stop around.bound s).trace) := by
    simp [runWith, h, opening, banner, Traced.printLine, Traced.emit, Traced.log,
      Trace.printedLine]
    rfl
  refine ⟨?_, ?_, ?_⟩
  · simp [runWith, h]
    rfl
  · rw [htrace, Trace.printed_append, Trace.printed_append, printed_prepare, printed_opening,
      String.empty_append]
  · rw [htrace, Trace.calls_append opening]
    rfl

end

/-- The configuration is what some options ask for. -/
structure Meets (options : CommandLine.Options) (config : Config) : Prop where
  mode : config.mode = .snapshot ↔ options.snapshot = true
  library : config.library = options.library
  /-- A library that is named is tried before the default places. -/
  candidates : config.candidates = options.library.toList ++ defaultLibraryPaths
  interval : config.interval = defaultInterval
  window : config.window = defaultWindow

theorem meets_configOf (options : CommandLine.Options) : Meets options (configOf options) where
  mode := by cases h : options.snapshot <;> simp [configOf, h]
  library := rfl
  candidates := rfl
  interval := rfl
  window := rfl

/-- Options stand for a valid configuration if they name no library with an empty path. -/
theorem validate_configOf {options : CommandLine.Options}
    (h : ∀ path ∈ options.library, path.bytes ≠ []) :
    (configOf options).validate = .ok () := by
  have hpath : options.library.any (·.bytes.isEmpty) = false := by
    cases hlibrary : options.library with
    | none => rfl
    | some path => simpa using h path (by simp [hlibrary])
  have hinterval : defaultInterval.isZero = false := by decide
  have hwindow : defaultWindow.isZero = false := by decide
  have hfits : defaultWindow.above defaultInterval = false := by decide
  simp [Config.validate, configOf, hpath, hinterval, hwindow, hfits]

/-- The log is echoed on the other stream, so a run with accepted arguments is the run with the
configuration that they stand for. -/
theorem execute_of_accepted {parser : CommandLine.Parser} (hparser : parser.RefusesEmptyPath)
    (around : Surroundings) {arguments : List Bytes} {preset : Option Bytes}
    {options : CommandLine.Options} (h : parser arguments preset = .accepted options) :
    (execute parser around arguments preset).value = (runWith around (configOf options)).value ∧
      (execute parser around arguments preset).trace.printed .output =
        (runWith around (configOf options)).trace.printed .output ∧
      (execute parser around arguments preset).trace.calls =
        (runWith around (configOf options)).trace.calls := by
  have hvalid := validate_configOf (hparser arguments preset options h)
  have hmonitor : monitor around options = runWith around (configOf options) := by
    simp only [monitor, hvalid]
  simp only [execute, h, hmonitor, Trace.printed_echoed, Trace.calls_echoed, and_self]

/-- What a run with a configuration has come to, once it has ended. -/
structure Outcome (around : Surroundings) (config : Config) (r : Traced Status) : Prop where
  /-- The stages before the loop decide about the status, whatever has ended the loop. -/
  status : r.value = .success ↔ ∃ s, Prepared around.loader config s
  /-- With status 1 the banner was printed and nothing else. -/
  refused : r.value = .failure → r.trace.printed .output = textOf banner
  /-- With status 0 the loop has ended, and what it has printed is between the announcement and
  the last line. -/
  completed : ∀ s, Prepared around.loader config s →
    (∃ n summary, Ends config around.stop around.bound (report s).value.2 n summary) ∧
    r.trace.printed .output = textOf (banner ++ startupLines s ++ announcement config.mode) ++
      (observe config around.stop around.bound (report s).value.2).trace.printed .output ++
        textOf ["GPU monitoring completed"]
  /-- What the loop has printed is one line for a snapshot. -/
  snapshot : config.mode = .snapshot → ∀ s, Prepared around.loader config s →
    ∃ body, (observe config around.stop around.bound (report s).value.2).trace.printed .output =
      String.ofList (body ++ ['\n']) ∧ ∀ c ∈ body, Printable c
  /-- A library that was loaded is released, and unloaded last. -/
  released : ∀ lib, (Library.load around.loader config.candidates).value = .ok lib →
    r.trace.Released
  /-- Nothing is called if no library was loaded. -/
  untouched : ∀ f, (Library.load around.loader config.candidates).value = .error f →
    r.trace.calls = []

section
variable {around : Surroundings} {config : Config}

/-- Of a run no more counts than its status, its output and its calls. -/
theorem Outcome.congr {r r' : Traced Status} (h : Outcome around config r)
    (hvalue : r'.value = r.value) (hprinted : r'.trace.printed .output = r.trace.printed .output)
    (hcalls : r'.trace.calls = r.trace.calls) : Outcome around config r' where
  status := by rw [hvalue, h.status]
  refused hfailure := by rw [hprinted, h.refused (hvalue ▸ hfailure)]
  completed s hs := by
    rw [hprinted]
    exact h.completed s hs
  snapshot := h.snapshot
  released lib hload := (h.released lib hload).congr hcalls
  untouched f hload := by rw [hcalls, h.untouched f hload]

/-- A run whose stages before the loop fail has ended with status 1. -/
theorem outcome_of_unprepared {trouble : Trouble}
    (h : (prepare around.loader config).value = .error trouble) :
    (runWith around config).value = .failure ∧
      (¬ ∃ s, Prepared around.loader config s) ∧
      Outcome around config (runWith around config) := by
  have hnone : ¬ ∃ s, Prepared around.loader config s := by
    rintro ⟨s, hs⟩
    rw [prepared_iff, h] at hs
    cases hs
  obtain ⟨hvalue, hprinted, hcalls⟩ := runWith_of_unprepared h
  refine ⟨hvalue, hnone, ?_⟩
  exact
    { status := by simp [hvalue, hnone]
      refused := fun _ => hprinted
      completed := fun s hs => absurd ⟨s, hs⟩ hnone
      snapshot := fun _ s hs => absurd ⟨s, hs⟩ hnone
      released := fun lib hload => (released_of_unprepared hload h).congr hcalls
      untouched := fun f hload => by
        rw [hcalls, (prepare_of_unloaded hload).2, Library.calls_load] }

/-- A run whose stages before the loop succeed goes on in its loop, or has ended with status 0. -/
theorem outcome_of_prepared {s : Session Library} (h : Prepared around.loader config s) :
    ((runWith around config).value = .running ∧ ∀ k < around.bound,
      Watch.lastRound? config.mode config.interval around.stop (report s).value.2 k = none) ∨
    ((runWith around config).value = .success ∧
      (∃ n summary, Ends config around.stop around.bound (report s).value.2 n summary) ∧
      Outcome around config (runWith around config)) := by
  obtain ⟨⟨i, hinUse⟩, hreleased⟩ := released_of_prepared h
  obtain ⟨hvalue, hprinted, hcalls⟩ := runWith_of_prepared (prepared_iff.1 h)
  rw [hvalue]
  rcases attend_spec config around.stop around.bound hinUse with hmet |
    ⟨hsuccess, ⟨n, summary, hends⟩, hlines, t, s', hcycles, hfinished⟩
  · exact .inl hmet
  · refine .inr ⟨hsuccess, ⟨n, summary, hends⟩, ?_⟩
    rw [hsuccess] at hvalue
    exact
      { status := by simpa [hvalue] using ⟨s, h⟩
        refused := by simp [hvalue]
        completed := fun s' hs' => by
          obtain rfl := prepared_unique h hs'
          refine ⟨⟨n, summary, hends⟩, ?_⟩
          rw [hprinted, hlines, List.append_assoc, textOf_append banner]
          simp only [String.append_assoc]
        snapshot := fun hmode s' hs' => by
          obtain rfl := prepared_unique h hs'
          exact (hends.snapshot hmode).2
        released := fun lib hload => (hreleased t s' hcycles).congr (by
          rw [hcalls, Trace.calls_append, hfinished, ← Trace.calls_append])
        untouched := fun f hload => by
          obtain ⟨lib, opened, id, hloaded, -⟩ := h
          rw [hload] at hloaded
          cases hloaded }

end

/--
**How a run ends.** Let the arguments be read by a parser that refuses a library with an empty path,
and let it accept them. The run has the configuration that its options ask for: it is a snapshot if
and only if they say so, and a library that they name is tried first. It goes on only in its loop:
it has not ended within its bound if and only if the stages before the loop have succeeded and none
of so many rounds is the last one. If it has ended, then

* its status is 0 if and only if these stages have succeeded, whatever has ended the loop;
* with status 1 it has printed the banner and nothing else;
* with status 0 it has printed the banner, the report, the announcement, what the loop prints up
  to its last round, and the last line; in snapshot mode the loop prints one line;
* its calls are those of a whole life, and the unloading is the last one, if the library has been
  loaded, and there are none otherwise.
-/
theorem run_outcome {parser : CommandLine.Parser} (hparser : parser.RefusesEmptyPath)
    (around : Surroundings) {arguments : List Bytes} {preset : Option Bytes}
    {options : CommandLine.Options} (hparse : parser arguments preset = .accepted options) :
    let config := configOf options
    let r := execute parser around arguments preset
    Meets options config ∧
    (r.value = .running ↔ ∃ s, Prepared around.loader config s ∧ ∀ k < around.bound,
      Watch.lastRound? config.mode config.interval around.stop (report s).value.2 k = none) ∧
    (r.value ≠ .running → Outcome around config r) := by
  intro config r
  obtain ⟨hvalue, hprinted, hcalls⟩ : r.value = (runWith around config).value ∧
      r.trace.printed .output = (runWith around config).trace.printed .output ∧
      r.trace.calls = (runWith around config).trace.calls :=
    execute_of_accepted hparser around hparse
  refine ⟨meets_configOf options, ?_⟩
  cases hprepared : (prepare around.loader config).value with
  | error trouble =>
    obtain ⟨hfailure, hnone, houtcome⟩ := outcome_of_unprepared hprepared
    refine ⟨?_, fun _ => houtcome.congr hvalue hprinted hcalls⟩
    rw [hvalue, hfailure]
    constructor
    · intro hrunning
      cases hrunning
    · rintro ⟨s, hs, -⟩
      exact absurd ⟨s, hs⟩ hnone
  | ok s =>
    have hs : Prepared around.loader config s := prepared_iff.2 hprepared
    rcases outcome_of_prepared hs with ⟨hrunning, hall⟩ |
      ⟨hsuccess, ⟨n, summary, hends⟩, houtcome⟩
    · rw [hrunning] at hvalue
      exact ⟨⟨fun _ => ⟨s, hs, hall⟩, fun _ => hvalue⟩, fun hended => absurd hvalue hended⟩
    · refine ⟨?_, fun _ => houtcome.congr hvalue hprinted hcalls⟩
      rw [hvalue, hsuccess]
      constructor
      · intro hrunning
        cases hrunning
      · -- the round that has ended the loop is within the bound
        rintro ⟨s', hs', hall⟩
        obtain rfl := prepared_unique hs hs'
        have hgoing := hall n hends.bounded
        rw [hends.last] at hgoing
        cases hgoing

/-- A snapshot with a library of one's own, which is the only one that can be loaded. -/
theorem run_outcome_ownLibrary :
    let own : Path := .ofText "./own.so"
    let around : Surroundings :=
      { loader := fun path => if path = own then .opens Library.twoSets else .fails ""
        bound := 1 }
    let arguments := ["--snapshot", "--library", "./own.so"].map Bytes.ofText
    let options : CommandLine.Options := { snapshot := true, library := some own }
    let r := execute CommandLine.parser around arguments none
    CommandLine.Parser.RefusesEmptyPath CommandLine.parser ∧
      CommandLine.parser arguments none = .accepted options ∧ Meets options (configOf options) ∧
      (∃ lib, (Library.load around.loader (configOf options).candidates).value = .ok lib ∧
        lib.path = own) ∧
      r.value = .success ∧ r.trace.Released ∧
      ∃ s body, Prepared around.loader (configOf options) s ∧ (∀ c ∈ body, Printable c) ∧
        r.trace.printed .output =
          textOf (banner ++ startupLines s ++ announcement .snapshot) ++
            String.ofList (body ++ ['\n']) ++ textOf ["GPU monitoring completed"] := by
  intro own around arguments options r
  have hparser := CommandLine.parser_refusesEmptyPath
  have hparse : CommandLine.parser arguments none = .accepted options := by decide +kernel
  have hsuccess : r.value = .success := by decide +kernel
  have hended : r.value ≠ .running := by
    rw [hsuccess]
    simp
  obtain ⟨hmeets, -, houtcome⟩ := run_outcome hparser around hparse
  obtain ⟨s, hs⟩ := (houtcome hended).status.1 hsuccess
  obtain ⟨lib, -, -, hload, -⟩ := id hs
  have hpath : (Library.load around.loader (configOf options).candidates).value.map Library.path =
      .ok own := by decide +kernel
  rw [hload] at hpath
  have hmode : (configOf options).mode = .snapshot := hmeets.mode.2 rfl
  obtain ⟨body, hbody, hprintable⟩ := (houtcome hended).snapshot hmode s hs
  have hprinted := ((houtcome hended).completed s hs).2
  rw [hbody, hmode] at hprinted
  exact ⟨hparser, hparse, hmeets, ⟨lib, hload, Except.ok.inj hpath⟩, hsuccess,
    (houtcome hended).released lib hload, s, body, hs, hprintable, hprinted⟩

end Program

end GpuMonitor
