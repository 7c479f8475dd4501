import GpuMonitor.Proofs.BestEffort
import GpuMonitor.Proofs.Lifetime
import GpuMonitor.Proofs.Lockstep

/-!
# What is measured does not depend on best effort

Reading the clocks, deactivating and closing may fail or not, and the clocks may show what they
show: every operation of a session comes to the same, but for the clocks in its samples. A
deactivation that fails leaves the session in another state and makes later calls differ, so
sessions are compared by a core that leaves out whether a set is active.

* `Session.core`: a session without what such calls leave in it.
* `coupled_sample`, `coupled_release`, `coupled_perform`: the operations keep sessions of one
  core together.
* `Turn`, `takeAll`: histories with several sessions, one after the other.
* `Loader.Alike`: two loaders whose libraries differ in such calls only.

Main result:

* `answers_independent`: over every history, two alike loaders give the same answers.
-/

namespace GpuMonitor

variable {α : Type}

namespace Session

/-- A session without what is left in it by calls that it can do without. -/
def core (s : Session Library) : Session Library :=
  { s with gateway := s.gateway.core, active := false }

theorem coupled_onGateway {A : α → α → Prop} {m : Action Library α}
    (hm : Coupled (Same Library.core) A m m) :
    Coupled (Same core) A (onGateway m) (onGateway m) :=
  coupled_part hm (fun _ => rfl) fun _ _ => rfl

theorem core_onGateway {m : Action Library α} (hm : Keeps Library.core m) :
    Keeps core (onGateway m) := keeps_within hm fun _ _ h => by simp [core, h]

/-- Whether a set is active is no part of the core. -/
theorem core_settle (active : Bool) :
    Keeps core (modify fun s => { s with active } : Action (Session Library) PUnit) :=
  obeys_modify fun _ => rfl

theorem core_warnUnlessOk (what : String) (code : CompletionCode) :
    Keeps core (warnUnlessOk what code) := by
  intro s
  rw [value_warnUnlessOk]

/-! ## Releasing -/

/-- A set may be deactivated on one side only. -/
theorem core_releaseSet : Keeps core (releaseSet (γ := Library)) := by
  have hc := composes_keeps core
  refine obeys_bind hc (obeys_get hc) fun s => ?_
  split
  · split
    · exact core_settle false
    · refine obeys_bind hc (core_onGateway (Library.core_deactivate _)) fun code => ?_
      exact obeys_bind hc (core_warnUnlessOk _ code) fun _ => core_settle false
  · exact obeys_pure hc _

theorem coupled_releaseDevice :
    Coupled (Same core) Eq (releaseDevice (γ := Library)) releaseDevice := by
  refine coupled_bind coupled_get fun s s' h => ?_
  rw [h.reads Session.deviceOpen fun _ => rfl]
  split
  · refine coupled_bind (coupled_onGateway Library.coupled_closeDevice) fun code code' _ => ?_
    refine coupled_bind_eq (coupled_warnUnlessOk _ code code') fun _ => ?_
    exact coupled_modify_same fun _ => rfl
  · exact coupled_pure rfl

theorem coupled_releaseGroup :
    Coupled (Same core) Eq (releaseGroup (γ := Library)) releaseGroup := by
  refine coupled_bind coupled_get fun s s' h => ?_
  rw [h.reads Session.groupOpen fun _ => rfl]
  split
  · refine coupled_bind (coupled_onGateway Library.coupled_closeAdapters) fun code code' _ => ?_
    refine coupled_bind_eq (coupled_warnUnlessOk _ code code') fun _ => ?_
    exact coupled_modify_same fun _ => rfl
  · exact coupled_pure rfl

theorem coupled_release : Coupled (Same core) Eq (release (γ := Library)) release := by
  refine coupled_bind coupled_get fun s s' h => ?_
  rw [h.reads Session.released fun _ => rfl]
  split
  · exact coupled_pure rfl
  · refine coupled_bind_eq (coupled_modify_same fun _ => rfl) fun _ => ?_
    refine coupled_bind_eq (coupled_log _ _ _ _) fun _ => ?_
    refine coupled_bind (coupled_of_keeps core_releaseSet core_releaseSet) fun _ _ _ => ?_
    refine coupled_bind_eq coupled_releaseDevice fun _ => ?_
    refine coupled_bind_eq coupled_releaseGroup fun _ => ?_
    exact coupled_onGateway Library.coupled_unload

/-! ## Sampling -/

theorem coupled_readClocks :
    Coupled (Same core) (fun _ _ => True) (readClocks (γ := Library)) readClocks := by
  have hclocks := core_onGateway Library.core_readClocks
  refine coupled_bind (coupled_of_keeps hclocks hclocks) fun r r' _ => ?_
  -- one side may have its clocks where the other has not
  cases r <;> cases r' <;>
    exact coupled_bind_eq (coupled_log _ _ _ _) fun _ => coupled_pure trivial

theorem coupled_deactivate (id : MetricSetId) :
    Coupled (Same core) (fun _ _ => True) (deactivate (γ := Library) id) (deactivate id) := by
  have hcall := core_onGateway (Library.core_deactivate id)
  have hsettle (code : CompletionCode) :
      Keeps core (if code.isOk then modify fun s => { s with active := false } else pure () :
        Action (Session Library) PUnit) := by
    split
    · exact core_settle false
    · exact obeys_pure (composes_keeps _) _
  refine coupled_bind (coupled_of_keeps hcall hcall) fun code code' _ => ?_
  refine coupled_bind_eq (coupled_warnUnlessOk _ code code') fun _ => ?_
  exact coupled_of_keeps (hsettle code) (hsettle code')

/-- The clocks are part of a sample as they are read, and of nothing else in it. -/
theorem sameButClocks_normalize (reading : Except Failure Utilization)
    (clocks clocks' : Option Timestamps) :
    SameButClocks (reading.map fun u => Utilization.normalize { u with timestamps := clocks })
      (reading.map fun u => Utilization.normalize { u with timestamps := clocks' }) := by
  cases reading with
  | error f => rfl
  | ok u =>
    refine congrArg Except.ok ?_
    rw [Utilization.untimed_normalize, Utilization.untimed_normalize]
    rfl

theorem coupled_measure (id : MetricSetId) :
    Coupled (Same core) SameButClocks (measure (γ := Library) id) (measure id) := by
  refine coupled_bind coupled_readClocks fun clocks clocks' _ => ?_
  refine coupled_bind coupled_get fun s s' _ => ?_
  refine coupled_bind_eq (coupled_emitAll [_] [_]) fun _ => ?_
  refine coupled_bind_eq
    (coupled_onGateway (coupled_readValues Library.reading_coupled id)) fun reading => ?_
  refine coupled_bind (coupled_deactivate id) fun _ _ _ => ?_
  exact coupled_pure (sameButClocks_normalize reading clocks clocks')

theorem coupled_sample : Coupled (Same core) SameButClocks (sample (γ := Library)) sample := by
  refine coupled_bind coupled_get fun s s' h => ?_
  rw [h.reads Session.selection fun _ => rfl]
  cases s'.selection with
  | none => exact coupled_pure rfl
  | some selection =>
    refine coupled_bind_eq (coupled_onGateway (Library.coupled_activate selection.id)) fun code => ?_
    split
    · refine coupled_bind (coupled_of_keeps (core_settle true) (core_settle true)) fun _ _ _ => ?_
      exact coupled_measure selection.id
    · exact coupled_pure rfl

theorem coupled_select : Coupled (Same core) Eq (select (γ := Library)) select := by
  refine coupled_bind_eq (coupled_onGateway (coupled_selectSet Library.reading_coupled))
    fun result => ?_
  split
  · exact coupled_pure rfl
  · exact coupled_bind_eq (coupled_modify_same fun _ => rfl) fun _ => coupled_pure rfl

/-! ## Starting -/

theorem coupled_openDevice (adapter : AdapterInfo) :
    Coupled (Same core) Eq (openDevice (γ := Library) adapter) (openDevice adapter) := by
  refine coupled_bind_eq (coupled_onGateway (Library.coupled_openDevice adapter.index)) fun r => ?_
  split
  · exact coupled_pure rfl
  · refine coupled_bind_eq (coupled_modify_same fun _ => rfl) fun _ => ?_
    exact coupled_bind_eq (coupled_log _ _ _ _) fun _ => coupled_pure rfl

theorem coupled_openIntel (group : AdapterGroupParams) :
    Coupled (Same core) Eq (openIntel (γ := Library) group) (openIntel group) := by
  refine coupled_bind_eq (coupled_log _ _ _ _) fun _ => ?_
  refine coupled_bind_eq (coupled_onGateway (coupled_listAdapters Library.reading_coupled))
    fun list => ?_
  split
  · exact coupled_pure rfl
  · exact coupled_bind_eq (coupled_log _ _ _ _) fun _ => coupled_openDevice _

theorem coupled_openAll : Coupled (Same core) Eq (openAll (γ := Library)) openAll := by
  refine coupled_bind_eq (coupled_onGateway Library.coupled_openAdapters) fun r => ?_
  split
  · exact coupled_pure rfl
  · refine coupled_bind_eq (coupled_modify_same fun _ => rfl) fun _ => ?_
    refine coupled_bind_eq (coupled_onGateway Library.coupled_readAdapterGroup) fun params => ?_
    split
    · exact coupled_pure rfl
    · exact coupled_openIntel _

/-- Starts on libraries with one core fail alike, or give sessions with one core. -/
theorem core_start {lib lib' : Library} (h : Same Library.core lib lib') :
    (start lib).value.map core = (start lib').value.map core := by
  have hsame : Same core { gateway := lib } { gateway := lib' } :=
    congrArg (fun gateway => ({ gateway } : Session Library)) h
  obtain ⟨hresult, hstate⟩ := coupled_openAll _ _ hsame
  cases hopen : (openAll { gateway := lib' }).value.1 with
  | error f =>
    rw [hopen] at hresult
    rw [(start_error hresult).1, (start_error hopen).1]
  | ok _ =>
    rw [hopen] at hresult
    rw [(start_ok hresult).1, (start_ok hopen).1]
    exact congrArg Except.ok hstate

end Session

/-! ## Loaders -/

/-- What comes of loading, with the core of the library. -/
def Loading.core : Loading → Loading
  | opens script => opens script.core
  | lacksEntry reason => lacksEntry reason
  | fails reason => fails reason

/-- Two loaders load the same, but for the calls that a session can do without. -/
def Loader.Alike (loader loader' : Loader) : Prop := ∀ path, (loader path).core = (loader' path).core

/-- What is alike to a loading is a loading of the same kind. -/
theorem Loading.core_cases {l l' : Loading} (h : l.core = l'.core) :
    (∃ script script', l = .opens script ∧ l' = .opens script' ∧ script.core = script'.core) ∨
      l = l' ∧ ∀ script, l ≠ .opens script := by
  cases l <;> cases l' <;> simp_all [core]

theorem Library.core_load {loader loader' : Loader} (h : loader.Alike loader')
    (candidates : List Path) :
    (load loader candidates).value.map core = (load loader' candidates).value.map core := by
  -- for any candidates tried before, which only the failure names
  suffices hafter : ∀ tried rest, (loadAfter loader tried rest).value.map core =
      (loadAfter loader' tried rest).value.map core from hafter [] candidates
  intro tried rest
  induction rest generalizing tried with
  | nil => rfl
  | cons path rest ih =>
    obtain ⟨script, script', hl, hl', hcore⟩ | ⟨heq, hno⟩ := Loading.core_cases (h path)
    · have hfresh : (Vendor.State.fresh script).core = (Vendor.State.fresh script').core :=
        congrArg Vendor.State.fresh hcore
      simp only [loadAfter, hl, hl', Traced.value_bind, Traced.value_pure, Except.map, core, hfresh]
    · cases hl : loader path with
      | opens script => exact absurd hl (hno script)
      | lacksEntry reason =>
        simp only [loadAfter, ← heq, hl, Traced.value_bind, Traced.value_pure]
      | fails reason =>
        simp only [loadAfter, ← heq, hl, Traced.value_bind]
        exact ih _

namespace Session

theorem core_launch {loader loader' : Loader} (h : loader.Alike loader') (candidates : List Path) :
    (launch loader candidates).value.map core = (launch loader' candidates).value.map core := by
  obtain ⟨f, hl, hl'⟩ | ⟨lib, lib', hl, hl', hcore⟩ :=
    cases_of_map_eq (Library.core_load h candidates)
  · rw [(launch_of_error hl).1, (launch_of_error hl').1]
  · rw [(launch_of_ok hl).1, (launch_of_ok hl').1]
    exact core_start hcore

/-! ## Operations -/

/-- An answer without the clocks that a sample comes with. -/
def Reply.untimed : Reply → Reply
  | .sample result => .sample (result.map Utilization.untimed)
  | reply => reply

/-- An operation answers the same on both sides, but for the clocks of a sample. -/
theorem coupled_perform (op : Operation) :
    Coupled (Same core) (fun reply reply' => reply.untimed = reply'.untimed)
      (op.perform (γ := Library)) op.perform := by
  have heq {β : Type} {f : β → Reply} (b b' : β) (h : b = b') :
      (f b).untimed = (f b').untimed := by rw [h]
  cases op with
  | adapters =>
    exact coupled_map (coupled_onGateway (coupled_listAdapters Library.reading_coupled)) heq
  | adapter =>
    refine coupled_bind coupled_get fun s s' h => coupled_pure ?_
    rw [h.reads Session.adapter fun _ => rfl]
  | selection =>
    refine coupled_bind coupled_get fun s s' h => coupled_pure ?_
    rw [h.reads Session.selection fun _ => rfl]
  | deviceName =>
    exact coupled_map (coupled_onGateway (coupled_map_eq _ Library.coupled_readDevice)) heq
  | catalog => exact coupled_map (coupled_onGateway (coupled_catalog Library.reading_coupled)) heq
  | select => exact coupled_map coupled_select heq
  | sample => exact coupled_map coupled_sample fun r r' h => congrArg Reply.sample h
  | setWindow length =>
    exact coupled_bind_eq (coupled_modify_same fun _ => rfl) fun _ => coupled_pure rfl
  | run mode interval bound bench =>
    refine coupled_bind_eq ?_ fun _ => coupled_pure rfl
    exact Monitor.Bench.coupled_run coupled_sample mode interval bound bench
  | release => exact coupled_bind_eq coupled_release fun _ => coupled_pure rfl

/-! ## Histories -/

/-- One turn of a history of sessions, of which there is one at a time. -/
inductive Turn where
  /-- Ends the session, if there is one, and launches another one. -/
  | launch (candidates : List Path)
  | operate (op : Operation)
  /-- Ends the session, if there is one. -/
  | finish

/-- What a turn comes to. -/
inductive Outcome where
  | launched (result : Except Failure Unit)
  | replied (reply : Reply)
  /-- There is no session to operate on. -/
  | absent
  | finished

/-- An outcome without the clocks that a sample comes with. -/
def Outcome.untimed : Outcome → Outcome
  | replied reply => replied reply.untimed
  | outcome => outcome

/-- Ends a session, if there is one. -/
def dismiss : Option (Session Library) → Traced Unit
  | none => pure ()
  | some s => do
    let _ ← Session.finish s
    return ()

/-- Takes a turn. -/
def Turn.take (loader : Loader) : Turn → Action (Option (Session Library)) Outcome
  | launch candidates => fun current => do
    dismiss current
    match ← Session.launch loader candidates with
    | .error f => return (.launched (.error f), none)
    | .ok s => return (.launched (.ok ()), some s)
  | operate op => fun current =>
    match current with
    | none => return (.absent, none)
    | some s => do
      let (reply, s) ← op.perform s
      return (.replied reply, some s)
  | finish => fun current => do
    dismiss current
    return (.finished, none)

/-- Takes some turns, one after the other. -/
def takeAll (loader : Loader) : List Turn → Action (Option (Session Library)) (List Outcome)
  | [] => pure []
  | turn :: rest => do
    let outcome ← turn.take loader
    return outcome :: (← takeAll loader rest)

theorem value_take_launch (loader : Loader) (candidates : List Path)
    (current : Option (Session Library)) :
    ((Turn.launch candidates).take loader current).value =
      match (launch loader candidates).value with
      | .error f => (.launched (.error f), none)
      | .ok s => (.launched (.ok ()), some s) := by
  simp only [Turn.take, Traced.value_bind]
  cases (launch loader candidates).value <;> rfl

section
variable {loader loader' : Loader} (h : loader.Alike loader')
include h

/-- A turn comes to the same with both loaders, and sessions with one core are left. -/
theorem coupled_take (turn : Turn) :
    Coupled (Same (Option.map core)) (fun outcome outcome' => outcome.untimed = outcome'.untimed)
      (turn.take loader) (turn.take loader') := by
  intro current current' hcurrent
  unfold Same at hcurrent ⊢
  cases turn with
  | launch candidates =>
    rw [value_take_launch, value_take_launch]
    -- nothing is left of the session that there was, so the launches decide
    obtain ⟨f, hl, hl'⟩ | ⟨s, s', hl, hl', hcore⟩ := cases_of_map_eq (core_launch h candidates)
    · rw [hl, hl']
      exact ⟨rfl, rfl⟩
    · rw [hl, hl']
      exact ⟨rfl, congrArg some hcore⟩
  | operate op =>
    cases current with
    | none =>
      cases current' with
      | none => exact ⟨rfl, rfl⟩
      | some s' => cases hcurrent
    | some s =>
      cases current' with
      | none => cases hcurrent
      | some s' =>
        obtain ⟨hreply, hstate⟩ := coupled_perform op s s' (Option.some.inj hcurrent)
        exact ⟨congrArg Outcome.replied hreply, congrArg some hstate⟩
  | finish => exact ⟨rfl, rfl⟩

theorem coupled_takeAll (turns : List Turn) :
    Coupled (Same (Option.map core))
      (fun outcomes outcomes' => outcomes.map Outcome.untimed = outcomes'.map Outcome.untimed)
      (takeAll loader turns) (takeAll loader' turns) := by
  induction turns with
  | nil => exact coupled_pure rfl
  | cons turn rest ih =>
    refine coupled_bind (coupled_take h turn) fun outcome outcome' hfirst => ?_
    refine coupled_bind ih fun outcomes outcomes' hrest => coupled_pure ?_
    rw [List.map_cons, List.map_cons, hfirst, hrest]

end

/--
**What a session answers does not depend on calls that it can do without.** Let two loaders load
libraries whose trees differ only in the codes and times of the clocks and in the codes of
deactivating and closing. Then every history of launches, operations and ends comes to the same
with both: the same failures, adapters, catalogs and selected sets, samples with the same channels
and totals, and loops with the same summary, that leave the same writer, flag and pauses behind.
Only the clocks in a sample may differ.
-/
theorem answers_independent {loader loader' : Loader} (h : loader.Alike loader')
    (turns : List Turn) :
    (takeAll loader turns none).value.1.map Outcome.untimed =
      (takeAll loader' turns none).value.1.map Outcome.untimed := by
  obtain ⟨houtcomes, -⟩ := coupled_takeAll h turns none none rfl
  exact houtcomes

/-- The library with two sets, on which deactivating always succeeds, but reading the clocks and
closing do not. -/
def otherTwoSets : Vendor.Script where
  group := { adapterCount := 1, adapters := [some adapter], closing := [43] }
where
  first : Vendor.MetricSet := { Library.twoSets.first with deactivation := [] }
  adapter : Vendor.Adapter :=
    { Library.twoSets.adapter with
      closing := [40]
      device :=
        { groupCount := 1
          groups := [some { setCount := 2, sets := [some first, some Library.twoSets.second] }]
          clockCodes := [42]
          gpuNanos := 7 } }

/-- Two samples and a release on both libraries: the answers are the same, the calls are not. -/
theorem answers_independent_twoSets :
    let turns : List Turn := [.launch [⟨[]⟩], .operate .select, .operate .sample,
      .operate .sample, .operate .release, .finish]
    let loader : Loader := fun _ => .opens Library.twoSets
    let loader' : Loader := fun _ => .opens otherTwoSets
    loader.Alike loader' ∧
    (takeAll loader turns none).value.1.map Outcome.untimed =
      (takeAll loader' turns none).value.1.map Outcome.untimed ∧
    (takeAll loader turns none).trace.calls ≠ (takeAll loader' turns none).trace.calls := by
  intro turns loader loader'
  have halike : loader.Alike loader' := fun _ => rfl
  exact ⟨halike, answers_independent halike turns, by decide +kernel⟩

end Session
end GpuMonitor
